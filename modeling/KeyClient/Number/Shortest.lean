import KeyClient.Number.Rounding

/-!
# Shortest decimal digits

Of the decimal numerals that round back to a double, `Double.shortest` finds one with the fewest
digits, and of those the one nearest to the double; of two that are as near it takes the even one.
It walks the decimal grids from coarse to fine and tries, on each, the two neighbours of the value;
the first grid with a hit wins.
-/

namespace KeyClient

/-- A positive double in its binary form `mantissa * 2 ^ exponent`. -/
structure Double where
  mantissa : Nat
  exponent : Int
deriving DecidableEq, Repr

namespace Double

/-- The binary form of `m * 2 ^ e` whose mantissa has 53 bits, or fewer at the least exponent. -/
def normalize (m : Nat) (e : Int) : Double :=
  let target := max (e + m.log2 - (Number.precision - 1)) Number.leastExponent
  let shift := e - target
  { mantissa := if 0 ≤ shift then m * Nat.pow 2 shift.toNat else m / Nat.pow 2 (-shift).toNat
    exponent := target }

/-- Whether the next double below is only half as far away as the next above. -/
def atBinade (x : Double) : Bool :=
  x.mantissa == Nat.pow 2 (Number.precision - 1).toNat && Number.leastExponent < x.exponent

/-- The decimal digits still looked at before every double is told apart. -/
def mostDigits : Nat := 17

/-- A quarter of the unit of `x`, as numerator and denominator. -/
def quarterUnit (x : Double) : Nat × Nat :=
  (Nat.pow 2 (x.exponent - 2).toNat, Nat.pow 2 (2 - x.exponent).toNat)

/-- The double and the ends of the interval that rounds to it, over one denominator. -/
structure Interval where
  value : Nat
  low : Nat
  high : Nat
  denominator : Nat
  closed : Bool
deriving DecidableEq, Repr

/-- The interval of the reals that round to `x`; its ends belong to it iff the mantissa is even. -/
def interval (x : Double) : Interval :=
  let (unit, denominator) := x.quarterUnit
  { value := 4 * x.mantissa * unit
    low := (4 * x.mantissa - if x.atBinade then 1 else 2) * unit
    high := (4 * x.mantissa + 2) * unit
    denominator
    closed := x.mantissa % 2 == 0 }

namespace Interval

/-- Whether `n / denominator` lies in the interval. -/
def contains (i : Interval) (n : Nat) : Bool :=
  if i.closed then i.low ≤ n && n ≤ i.high else i.low < n && n < i.high

/-- How far `n` is from the value. -/
def distance (i : Interval) (n : Nat) : Nat := if n ≤ i.value then i.value - n else n - i.value

/-- The interval with all numerators over the denominator multiplied. -/
def scale (i : Interval) (factor : Nat) : Interval :=
  { i with value := i.value * factor, low := i.low * factor, high := i.high * factor }

/-- The position of the point: the value is below `10 ^ point` and not below its tenth. -/
def point (i : Interval) : Int :=
  (Nat.toDigits 10 (i.value * Nat.pow 10 Decimal.exponentBound.toNat / i.denominator)).length
    - Decimal.exponentBound

/-- Whether of two neighbouring points of a grid, `below` steps and one step more, the lower one is
chosen: it is nearer to the value, or as near and has an even number of steps. -/
def prefersBelow (i : Interval) (step below : Nat) : Bool :=
  let down := i.distance (below * step)
  let up := i.distance ((below + 1) * step)
  down < up || (down == up && below % 2 == 0)

/-- The neighbour of the value on the grid of `10 ^ exponent` that rounds to the same double. -/
def onGrid? (i : Interval) (exponent : Int) : Option Nat :=
  let j := i.scale (Nat.pow 10 (-exponent).toNat)
  let step := i.denominator * Nat.pow 10 exponent.toNat
  let below := j.value / step
  let low := j.contains (below * step)
  let high := j.contains ((below + 1) * step)
  if low && (!high || j.prefersBelow step below) then some below
  else if high then some (below + 1)
  else none

end Interval

/-- The numeral without the zeros at its end. -/
def dropZeros (digits : Nat) (exponent : Int) : Decimal :=
  if 0 < digits ∧ digits % 10 = 0 then dropZeros (digits / 10) (exponent + 1)
  else ⟨digits, exponent⟩
termination_by digits
decreasing_by omega

/-- The shortest numeral that rounds to `x`, and of the shortest the nearest. -/
def shortest (x : Double) : Decimal :=
  let i := x.interval
  let grids := (List.range mostDigits).map fun (k : Nat) => i.point - 1 - (k : Int)
  match grids.findSome? fun e => (i.onGrid? e).map fun digits => (digits, e) with
  | some (digits, e) => dropZeros digits e
  | none => ⟨i.value / i.denominator, 0⟩

end Double

end KeyClient
