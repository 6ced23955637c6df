import KeyClient.Number.Rounding
import KeyClient.Text.Blank

/-!
# Reading numerals

Three readings of a text as a number.  `Number.ofText` takes the whole text, blanks around it
apart; `Number.leadingWhole` and `Number.leadingDecimal` take the longest numeral at its start.
What is no numeral reads as not-a-number.
-/

namespace KeyClient

namespace Decimal

/-- The numeral with the digits of a whole part and a fraction, moved by an exponent. -/
def ofDigits (whole fraction : List Char) (exponent : Int) : Decimal :=
  ⟨Nat.ofDigitChars 10 (whole ++ fraction) 0, exponent - fraction.length⟩

/-- An exponent mark with at least one digit after it, and the rest; without one, nothing. -/
def scanExponent : List Char → Int × List Char
  | e :: cs =>
    if e = 'e' || e = 'E' then
      let (negative, rest) :=
        match cs with
        | '-' :: r => (true, r)
        | '+' :: r => (false, r)
        | r => (false, r)
      let digits := rest.takeWhile Char.isDigit
      if digits.isEmpty then (0, e :: cs)
      else
        let n : Int := Nat.ofDigitChars 10 digits 0
        (if negative then -n else n, rest.dropWhile Char.isDigit)
    else (0, e :: cs)
  | [] => (0, [])

/-- The longest unsigned numeral at the start of the text, and the rest: digits with or without a
point, at least one of them, then perhaps an exponent. -/
def scan? (cs : List Char) : Option (Decimal × List Char) :=
  let whole := cs.takeWhile Char.isDigit
  let (fraction, rest) :=
    match cs.dropWhile Char.isDigit with
    | '.' :: r => (r.takeWhile Char.isDigit, r.dropWhile Char.isDigit)
    | r => ([], r)
  if whole.isEmpty && fraction.isEmpty then none
  else
    let (exponent, rest) := scanExponent rest
    some (ofDigits whole fraction exponent, rest)

end Decimal

namespace Number

/-- A sign, if the text has one, and the rest. -/
def scanSign : List Char → Bool × List Char
  | '-' :: cs => (true, cs)
  | '+' :: cs => (false, cs)
  | cs => (false, cs)

/-- The value of a digit in bases up to sixteen. -/
def digitValue? (c : Char) : Option Nat :=
  if c.isDigit then some (c.toNat - 0x30)
  else if 'a' ≤ c ∧ c ≤ 'f' then some (c.toNat - 0x61 + 10)
  else if 'A' ≤ c ∧ c ≤ 'F' then some (c.toNat - 0x41 + 10)
  else none

/-- The value of a digit below `base`. -/
def digitBelow? (base : Nat) (c : Char) : Option Nat := (digitValue? c).filter (· < base)

/-- The digits of the given base at the start of the text. -/
def leadingDigits (base : Nat) (cs : List Char) : List Nat :=
  (cs.takeWhile fun c => (digitBelow? base c).isSome).filterMap (digitBelow? base)

/-- The number with the given digits. -/
def ofBaseDigits (base : Nat) (digits : List Nat) : Nat :=
  digits.foldl (fun n d => base * n + d) 0

/-- The base that a mark after a zero stands for. -/
def markedBase? : Char → Option Nat
  | 'x' | 'X' => some 16
  | 'o' | 'O' => some 8
  | 'b' | 'B' => some 2
  | _ => none

/-- A numeral in a marked base: all that follows the mark are digits, at least one. -/
def ofMarked? : List Char → Option Number
  | '0' :: mark :: cs =>
    (markedBase? mark).map fun base =>
      let digits := leadingDigits base cs
      if digits.isEmpty || digits.length != cs.length then nan
      else ofQuotient false (ofBaseDigits base digits) 1
  | _ => none

/-- The word for infinity. -/
def infinityWord : List Char := "Infinity".toList

/-- A signed decimal numeral that takes the whole text. -/
def ofSigned (cs : List Char) : Number :=
  let (negative, rest) := scanSign cs
  if rest = infinityWord then infinity negative
  else
    match Decimal.scan? rest with
    | some (decimal, []) => decimal.toNumber negative
    | _ => nan

/-- The number that a text stands for; the blank text stands for zero. -/
def ofText (text : String) : Number :=
  match Text.trim text.toList with
  | [] => integer 0
  | cs => (ofMarked? cs).getD (ofSigned cs)

/-- The whole number at the start of a text, in base sixteen after `0x`. -/
def leadingWhole (text : String) : Number :=
  let (negative, rest) := scanSign (Text.trimStart text.toList)
  let (base, rest) :=
    match rest with
    | '0' :: 'x' :: r | '0' :: 'X' :: r => (16, r)
    | r => (10, r)
  match leadingDigits base rest with
  | [] => nan
  | digits => ofQuotient negative (ofBaseDigits base digits) 1

/-- The decimal numeral at the start of a text. -/
def leadingDecimal (text : String) : Number :=
  let (negative, rest) := scanSign (Text.trimStart text.toList)
  if infinityWord.isPrefixOf rest then infinity negative
  else
    match Decimal.scan? rest with
    | some (decimal, _) => decimal.toNumber negative
    | none => nan

end Number

end KeyClient
