import KeyClient.Text.Units

/-!
# UTF-8

`encode` writes a text as octets and `decode` reads octets as text.  Reading never fails: each
longest start of a character that cannot be completed becomes one replacement character, and the
octet that broke it is read afresh.  `Decoder.step` is that reader's automaton.
-/

namespace KeyClient.Text.Utf8

/-- The octets of a character. -/
def encodeChar (c : Char) : List UInt8 :=
  let n := c.toNat
  if n < 0x80 then [UInt8.ofNat n]
  else if n < 0x800 then [UInt8.ofNat (0xC0 + n / 0x40), UInt8.ofNat (0x80 + n % 0x40)]
  else if n < 0x10000 then
    [UInt8.ofNat (0xE0 + n / 0x1000), UInt8.ofNat (0x80 + n / 0x40 % 0x40),
      UInt8.ofNat (0x80 + n % 0x40)]
  else
    [UInt8.ofNat (0xF0 + n / 0x40000), UInt8.ofNat (0x80 + n / 0x1000 % 0x40),
      UInt8.ofNat (0x80 + n / 0x40 % 0x40), UInt8.ofNat (0x80 + n % 0x40)]

/-- The octets of a text. -/
def encode (cs : List Char) : List UInt8 := cs.flatMap encodeChar

/-- A character part way through: the octets still needed, the range of the next one and the bits
read so far. -/
structure Partial where
  needed : Nat
  low : Nat
  high : Nat
  bits : Nat
deriving DecidableEq, Repr

/-- The state between two octets: `none` between two characters. -/
abbrev Decoder := Option Partial

namespace Decoder

/-- What the first octet of a character says: a whole character, the start of one, or nothing. -/
def start (n : Nat) : List Char × Decoder :=
  if n < 0x80 then ([Char.ofNat n], none)
  else if 0xC2 ≤ n && n < 0xE0 then ([], some ⟨1, 0x80, 0xBF, n - 0xC0⟩)
  else if 0xE0 ≤ n && n < 0xF0 then
    ([], some ⟨2, if n = 0xE0 then 0xA0 else 0x80, if n = 0xED then 0x9F else 0xBF, n - 0xE0⟩)
  else if 0xF0 ≤ n && n < 0xF5 then
    ([], some ⟨3, if n = 0xF0 then 0x90 else 0x80, if n = 0xF4 then 0x8F else 0xBF, n - 0xF0⟩)
  else ([replacement], none)

/-- One octet: the characters it completes and the state after it. -/
def step (state : Decoder) (octet : UInt8) : List Char × Decoder :=
  let n := octet.toNat
  match state with
  | none => start n
  | some ⟨needed, low, high, bits⟩ =>
    if low ≤ n && n ≤ high then
      let bits := bits * 0x40 + (n - 0x80)
      if needed ≤ 1 then ([Char.ofNat bits], none) else ([], some ⟨needed - 1, 0x80, 0xBF, bits⟩)
    else
      let (cs, next) := start n
      (replacement :: cs, next)

/-- The text of the octets that follow in the given state. -/
def run (state : Decoder) : List UInt8 → List Char
  | [] => if state.isSome then [replacement] else []
  | octet :: rest => (step state octet).1 ++ run (step state octet).2 rest

end Decoder

/-- The text of a sequence of octets. -/
def decode (octets : List UInt8) : List Char := Decoder.run none octets

/-- The byte order mark that may open a text. -/
def byteOrderMark : Char := '\uFEFF'

/-- The text without the byte order marks at its start, of which at most `most` are dropped. -/
def dropMarks (most : Nat) (cs : List Char) : List Char :=
  match most, cs with
  | most + 1, c :: cs => if c = byteOrderMark then dropMarks most cs else c :: cs
  | _, cs => cs

end KeyClient.Text.Utf8
