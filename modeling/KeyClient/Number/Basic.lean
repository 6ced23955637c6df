/-!
# Numbers

A number of the data formats is a binary fraction, or one of the values that no fraction stands
for: not-a-number, the two infinities and the zero with a minus sign.  `Number` keeps every such
number in exactly one form, so equal numbers are equal terms.  The main definitions are the type
itself, `Number.halve`, which brings a binary fraction into that form, and the order `Number.le`.
-/

namespace KeyClient

/-- A number of the data formats; a `fraction` stands for `numerator / 2 ^ (depth + 1)`. -/
inductive Number where
  | nan
  | infinity (negative : Bool)
  | negativeZero
  | integer (value : Int)
  | fraction (numerator : Int) (depth : Nat) (odd : numerator % 2 = 1)
deriving DecidableEq, Repr, Inhabited

namespace Number

/-- The number `value / 2 ^ depth` in its one form. -/
def halve (value : Int) : Nat → Number
  | 0 => integer value
  | depth + 1 => if odd : value % 2 = 1 then fraction value depth odd else halve (value / 2) depth

@[simp] theorem halve_zero (value : Int) : halve value 0 = integer value := rfl

/-- Halving twice a value undoes one step of depth. -/
@[simp] theorem halve_two_mul (value : Int) (depth : Nat) :
    halve (2 * value) (depth + 1) = halve value depth := by
  simp [halve]

/-- The number `value * 2 ^ exponent`. -/
def ofBinary (value exponent : Int) : Number :=
  if 0 ≤ exponent then integer (value * (Nat.pow 2 exponent.toNat : Nat))
  else halve value (-exponent).toNat

/-- Whether the number is a whole number; the zero with a minus sign is one. -/
def isWhole : Number → Bool
  | integer _ | negativeZero => true
  | _ => false

/-- Numerator and binary logarithm of the denominator of a finite number. -/
def quotient? : Number → Option (Int × Nat)
  | integer value => some (value, 0)
  | negativeZero => some (0, 0)
  | fraction numerator depth _ => some (numerator, depth + 1)
  | nan | infinity _ => none

/-- The numeric order; not-a-number is comparable with nothing. -/
def le : Number → Number → Bool
  | nan, _ | _, nan => false
  | infinity true, _ | _, infinity false => true
  | infinity false, _ | _, infinity true => false
  | a, b =>
    match a.quotient?, b.quotient? with
    | some (m, i), some (n, j) => m * (Nat.pow 2 j : Nat) ≤ n * (Nat.pow 2 i : Nat)
    | _, _ => false

@[simp] theorem le_nan (a : Number) : a.le nan = false := by cases a <;> simp [le]

@[simp] theorem nan_le (a : Number) : nan.le a = false := by cases a <;> simp [le]

/-- On whole numbers the order is that of the integers. -/
@[simp] theorem integer_le_integer (m n : Int) : (integer m).le (integer n) = decide (m ≤ n) := by
  simp [le, quotient?]

end Number

end KeyClient
