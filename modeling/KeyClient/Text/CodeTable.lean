import KeyClient.Text.Split

/-!
# Tables of characters

Properties of characters come in tables of runs.  A table is written as words: `41-5a` is a run,
`100-12e/2` a run that takes every second character, and behind an equals sign stand the data of
all its characters, behind a greater-than sign the data of the first, which grow by one from each
character to the next.  All numbers are hexadecimal.
-/

namespace KeyClient.Text

/-- A run of characters with their data. -/
structure Run where
  first : Nat
  last : Nat
  step : Nat
  moving : Bool
  data : List Nat
deriving DecidableEq, Repr

/-- A table lists its runs. -/
abbrev CodeTable := List Run

namespace Run

/-- Whether the run reaches the character. -/
def covers (run : Run) (n : Nat) : Bool :=
  run.first ≤ n && n ≤ run.last && (n - run.first) % run.step == 0

/-- The data of a character of the run. -/
def dataAt (run : Run) (n : Nat) : List Nat :=
  if run.moving then run.data.map (· + (n - run.first)) else run.data

/-- The value of a hexadecimal digit in lower case. -/
def digit (c : Char) : Nat := if c.isDigit then c.toNat - 48 else c.toNat - 87

/-- The value of a hexadecimal number. -/
def hex (cs : List Char) : Nat := cs.foldl (fun n c => 16 * n + digit c) 0

/-- The run that a word stands for. -/
def ofWord (word : List Char) : Run :=
  let (place, data) := cut (fun c => c == '=' || c == '>') word
  let (span, step) := cut (· == '/') place
  let (first, last) := cut (· == '-') span
  { first := hex first
    last := hex (last.getD first)
    step := (step.map hex).getD 1
    moving := word.contains '>'
    data := (data.map fun cs => (split (· == ',') cs).map hex).getD [] }

end Run

namespace CodeTable

/-- The table that a text stands for. -/
def ofText (text : String) : CodeTable :=
  ((split Char.isWhitespace text.toList).filter fun word => !word.isEmpty).map Run.ofWord

/-- The data of a character. -/
def find? (table : CodeTable) (n : Nat) : Option (List Nat) :=
  (List.find? (·.covers n) table).map (·.dataAt n)

/-- Whether the table has the character. -/
def contains (table : CodeTable) (n : Nat) : Bool := List.any table (·.covers n)

end CodeTable

end KeyClient.Text
