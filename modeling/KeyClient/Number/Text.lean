import KeyClient.Number.Shortest

/-!
# Numbers as text

`Number.text` writes a number with the fewest digits that read back as it.  Whole numbers of
moderate size are written by their own digits, so that no search is needed for them; the format's
own decisions are the fields of `NumeralFormat`.
-/

namespace KeyClient

/-- Where a numeral is written with an exponent instead of leading or trailing zeros. -/
structure NumeralFormat where
  /-- The farthest right the point may stand in a numeral without exponent. -/
  rightmostPoint : Int
  /-- The farthest left the point may stand in a numeral without exponent. -/
  leftmostPoint : Int

namespace NumeralFormat

/-- Numerals have an exponent from 10 ^ 21 upwards and below a millionth. -/
def standard : NumeralFormat := ⟨21, -5⟩

/-- A decimal exponent with its sign. -/
def exponentText (e : Int) : String :=
  if 0 ≤ e then s!"e+{e.toNat}" else s!"e-{(-e).toNat}"

/-- The numeral laid out with a point or an exponent. -/
def write (format : NumeralFormat) (decimal : Decimal) : String :=
  let digits := Nat.toDigits 10 decimal.digits
  let point : Int := decimal.exponent + digits.length
  if point ≤ format.rightmostPoint ∧ digits.length ≤ point then
    String.ofList (digits ++ List.replicate decimal.exponent.toNat '0')
  else if 0 < point ∧ point ≤ format.rightmostPoint then
    String.ofList (digits.take point.toNat ++ '.' :: digits.drop point.toNat)
  else if format.leftmostPoint ≤ point ∧ point ≤ 0 then
    String.ofList ('0' :: '.' :: List.replicate (-point).toNat '0' ++ digits)
  else
    let fraction := if digits.length = 1 then [] else '.' :: digits.drop 1
    String.ofList (digits.take 1 ++ fraction) ++ exponentText (point - 1)

end NumeralFormat

namespace Number

/-- The text of a positive double. -/
def positiveText (m : Nat) (e : Int) : String :=
  NumeralFormat.standard.write (Double.normalize m e).shortest

/-- A minus sign for negative numbers, then the text of the magnitude. -/
def signed (value : Int) (magnitude : Nat → String) : String :=
  if value < 0 then "-" ++ magnitude value.natAbs else magnitude value.natAbs

/-- The number as text; the sign of zero is not written. -/
def text : Number → String
  | nan => "NaN"
  | infinity false => "Infinity"
  | infinity true => "-Infinity"
  | negativeZero => "0"
  | integer value =>
    signed value fun n => if n < exactBound then toString n else positiveText n 0
  | fraction numerator depth _ => signed numerator fun n => positiveText n (-(depth + 1 : Nat))

/-- The text of a small natural number is its decimal digits. -/
theorem text_ofNat {n : Nat} (small : n < exactBound) : (integer n).text = toString n := by
  have : ¬(n : Int) < 0 := by omega
  simp [text, signed, this, small]

end Number

end KeyClient
