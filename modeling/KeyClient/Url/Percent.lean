import KeyClient.Text.Utf8

/-!
# Percent encoding

The parts of an address allow different characters; all others are written by their octets, each
as a percent sign and two hexadecimal digits.  `Percent.encode` does so for a given set of
characters, and `Percent.decode` reads the octets back.
-/

namespace KeyClient.Url.Percent

/-- Whether a character must be encoded. -/
abbrev EncodeSet := Char → Bool

/-- Controls, and everything beyond ASCII. -/
def controls : EncodeSet := fun c => c.toNat < 0x20 || 0x7E < c.toNat

/-- The set for the part behind the number sign. -/
def fragment : EncodeSet := fun c => controls c || [' ', '\"', '<', '>', '\x60'].contains c

/-- The set for the part behind the question mark. -/
def query : EncodeSet := fun c => controls c || [' ', '\"', '#', '<', '>'].contains c

/-- The set for that part with one of the special schemes. -/
def specialQuery : EncodeSet := fun c => query c || c == '\''

/-- The set for the segments of a path. -/
def path : EncodeSet := fun c => query c || ['?', '\x60', '\x7b', '\x7d'].contains c

/-- The set for user names and passwords. -/
def userinfo : EncodeSet := fun c =>
  path c || ['/', ':', ';', '=', '@', '[', '\\', ']', '^', '|'].contains c

/-- A digit of a number below 16, in upper case. -/
def digit (n : Nat) : Char := (Nat.digitChar n).toUpper

/-- An octet by a percent sign and two digits. -/
def encodeOctet (octet : UInt8) : List Char :=
  ['%', digit (octet.toNat / 16), digit (octet.toNat % 16)]

/-- All octets of a character. -/
def encodeChar (c : Char) : List Char := (Text.Utf8.encodeChar c).flatMap encodeOctet

/-- A text in which no character of the set is left. -/
def encode (set : EncodeSet) (cs : List Char) : List Char :=
  cs.flatMap fun c => if set c then encodeChar c else [c]

/-- The value of a hexadecimal digit. -/
def digitValue? (c : Char) : Option Nat :=
  if c.isDigit then some (c.toNat - 48)
  else if 'a' ≤ c && c ≤ 'f' then some (c.toNat - 87)
  else if 'A' ≤ c && c ≤ 'F' then some (c.toNat - 55)
  else none

/-- The octet that two digits stand for. -/
def octet? (high low : Char) : Option UInt8 :=
  match digitValue? high, digitValue? low with
  | some h, some l => some (UInt8.ofNat (16 * h + l))
  | _, _ => none

/-- The octets of a text, with the encoded ones read back. -/
def decode : List Char → List UInt8
  | '%' :: high :: low :: cs =>
    match octet? high low with
    | some octet => octet :: decode cs
    | none => Text.Utf8.encodeChar '%' ++ decode (high :: low :: cs)
  | c :: cs => Text.Utf8.encodeChar c ++ decode cs
  | [] => []

end KeyClient.Url.Percent
