import KeyClient.Value.Display

/-!
# Deadlines

A deadline is a whole number of milliseconds that fits into 32 bits.  `Deadline.check` refuses
all other numbers and says what was received.
-/

namespace KeyClient.Http.Deadline

/-- The greatest deadline. -/
def greatest : Nat := Nat.pow 2 32 - 1

/-- Characters with an underscore behind each one that a positive multiple of three follows. -/
def separate : List Char → List Char
  | [] => []
  | c :: cs =>
    if cs.length % 3 = 0 && !cs.isEmpty then c :: '_' :: separate cs else c :: separate cs

/-- A text with an underscore before every third character from the right, but not at its start,
where a sign does not count. -/
def grouped (text : String) : String :=
  match text.toList with
  | '-' :: cs => String.ofList ('-' :: separate cs)
  | cs => String.ofList (separate cs)

/-- Whether the number is a whole one beyond 32 bits in either direction. -/
def isLong (n : Number) : Bool :=
  let bound : Int := (greatest : Int) + 1
  n.isWhole && !(n.le (.integer bound) && (Number.integer (-bound)).le n)

/-- What is said about a number that is no deadline. -/
def complaint (n : Number) : String :=
  let range :=
    if n.isWhole then s!"It must be >= 0 && <= {greatest}." else "It must be an integer."
  let received := if isLong n then grouped n.text else Display.number n
  s!"The value of \"delay\" is out of range. {range} Received {received}"

/-- The deadline that a number stands for. -/
def check (n : Number) : Except String Nat :=
  match n with
  | .negativeZero => .ok 0
  | .integer i =>
    if 0 ≤ i ∧ i ≤ greatest then .ok i.toNat else .error (complaint n)
  | _ => .error (complaint n)

end KeyClient.Http.Deadline
