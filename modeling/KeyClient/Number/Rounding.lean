import KeyClient.Number.Basic

/-!
# Rounding to double precision

A quotient of natural numbers is rounded to the nearest number with a mantissa of 53 bits and an
exponent of at least -1074; of two equally near ones the even mantissa wins, and what reaches
2 ^ 1024 becomes infinite.  `Number.ofQuotient` is the rounding, `Decimal.toNumber` applies it to
a decimal numeral.
-/

namespace KeyClient

/-- The natural number nearest to `n / d`; a half goes to the even neighbour. -/
def nearest (n d : Nat) : Nat :=
  let floor := n / d
  let rest := 2 * (n % d)
  if rest < d then floor else if d < rest then floor + 1 else floor + floor % 2

/-- The greatest `k` with `2 ^ k ≤ n / d`, for positive `n` and `d`. -/
def binaryMagnitude (n d : Nat) : Int :=
  let k : Int := (n.log2 : Int) - d.log2
  if d * Nat.pow 2 k.toNat ≤ n * Nat.pow 2 (-k).toNat then k else k - 1

namespace Number

/-- Number of bits of a mantissa. -/
def precision : Int := 53

/-- The least exponent of a mantissa's last bit. -/
def leastExponent : Int := -1074

/-- The power of two at which numbers become infinite. -/
def overflowExponent : Nat := 1024

/-- The integers below this bound are all representable. -/
def exactBound : Nat := Nat.pow 2 53

/-- Zero with the given sign. -/
def signedZero (negative : Bool) : Number := if negative then negativeZero else integer 0

/-- The exponent at which a quotient of this magnitude is cut. -/
def cutExponent (n d : Nat) : Int := max (binaryMagnitude n d - (precision - 1)) leastExponent

/-- The double nearest to `± n / d`; whole numbers below `exactBound` need no rounding. -/
def ofQuotient (negative : Bool) (n d : Nat) : Number :=
  let sign : Int := if negative then -1 else 1
  if n = 0 then signedZero negative
  else if n % d = 0 ∧ n / d < exactBound then integer (sign * (n / d : Nat))
  else
    let e := cutExponent n d
    let m := nearest (n * Nat.pow 2 (-e).toNat) (d * Nat.pow 2 e.toNat)
    if m = 0 then signedZero negative
    else if Nat.pow 2 overflowExponent ≤ m * Nat.pow 2 e.toNat then infinity negative
    else ofBinary (sign * m) e

end Number

/-- A decimal numeral, which stands for `digits * 10 ^ exponent`. -/
structure Decimal where
  digits : Nat
  exponent : Int
deriving DecidableEq, Repr

namespace Decimal

/-- Decimal exponents beyond this bound decide the rounding on their own. -/
def exponentBound : Int := 400

/-- The double nearest to the numeral with the given sign. -/
def toNumber (decimal : Decimal) (negative : Bool) : Number :=
  let size : Int := (Nat.toDigits 10 decimal.digits).length
  if decimal.digits = 0 then Number.signedZero negative
  else if exponentBound < decimal.exponent + size then Number.infinity negative
  else if decimal.exponent + size < -exponentBound then Number.signedZero negative
  else
    Number.ofQuotient negative (decimal.digits * Nat.pow 10 decimal.exponent.toNat)
      (Nat.pow 10 (-decimal.exponent).toNat)

end Decimal

end KeyClient
