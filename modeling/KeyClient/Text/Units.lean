/-!
# Code units

Lengths of texts are counted in 16-bit code units: a character beyond the basic plane takes two of
them, a high and a low surrogate.  The main definitions are `units`, `ofUnits`, its inverse, which
turns a surrogate without its partner into the replacement character, and `width`.  A text in the
memory of a program is a `Wide` one, made of any units; `Wide.text` is what is written of it.
-/

namespace KeyClient.Text

/-- What stands in for text that cannot be decoded. -/
def replacement : Char := '\uFFFD'

/-- The code units of a character. -/
def charUnits (c : Char) : List Nat :=
  if c.toNat < 0x10000 then [c.toNat]
  else [0xD800 + (c.toNat - 0x10000) / 0x400, 0xDC00 + (c.toNat - 0x10000) % 0x400]

/-- The code units of a text. -/
def units (cs : List Char) : List Nat := cs.flatMap charUnits

/-- Whether the unit is the first of a pair. -/
def isHigh (n : Nat) : Bool := 0xD800 ≤ n && n < 0xDC00

/-- Whether the unit is the second of a pair. -/
def isLow (n : Nat) : Bool := 0xDC00 ≤ n && n < 0xE000

/-- The character that a pair of surrogates stands for. -/
def ofPair (high low : Nat) : Char :=
  Char.ofNat (0x10000 + (high - 0xD800) * 0x400 + (low - 0xDC00))

/-- The character that a unit stands for on its own. -/
def ofUnit (n : Nat) : Char := if isHigh n || isLow n then replacement else Char.ofNat n

/-- The text with the given code units. -/
def ofUnits : List Nat → List Char
  | [] => []
  | [n] => [ofUnit n]
  | n :: m :: rest =>
    if isHigh n && isLow m then ofPair n m :: ofUnits rest else ofUnit n :: ofUnits (m :: rest)

/-- The number of code units of a text. -/
def width (cs : List Char) : Nat := (units cs).length

/-- Widths add up. -/
@[simp] theorem width_append (cs ds : List Char) : width (cs ++ ds) = width cs + width ds := by
  simp [width, units]

/-- The characters of the longest start of a text that fits into `n` code units. -/
def takeUnits : List Char → Nat → List Char
  | [], _ => []
  | c :: cs, n =>
    if (charUnits c).length ≤ n then c :: takeUnits cs (n - (charUnits c).length) else []

/-- The first unit of the pair that a cut after `n` code units divides, if it divides one. -/
def dividedUnit? : List Char → Nat → Option Nat
  | [], _ => none
  | c :: cs, n =>
    if (charUnits c).length ≤ n then dividedUnit? cs (n - (charUnits c).length)
    else if n = 0 then none
    else (charUnits c).head?

/-! ## Wide texts -/

/-- A text of code units, among which surrogates may stand without their partners. -/
structure Wide where
  units : List UInt16
deriving DecidableEq, Repr

namespace Wide

/-- The wide text of some characters. -/
def ofText (text : String) : Wide := ⟨(Text.units text.toList).map UInt16.ofNat⟩

/-- The characters of a wide text, with the replacement character for surrogates without their
partners. -/
def text (wide : Wide) : String := String.ofList (ofUnits (wide.units.map UInt16.toNat))

end Wide

end KeyClient.Text
