import KeyClient.Text.Columns.Table
import KeyClient.Text.Normal

/-!
# Columns

How many columns a text takes when it is shown in letters of one width: marks and controls take
none, ideographs and the like two, and everything else one.  From the first character beyond ASCII
on, a text is counted in its composed normal form.
-/

namespace KeyClient.Text.Columns

/-- The columns of a character. -/
def ofChar (c : Char) : Nat :=
  if hidden.contains c.toNat then 0 else if wide.contains c.toNat then 2 else 1

/-- The columns of a character of ASCII: controls take none. -/
def ofAscii (c : Char) : Nat := if c.toNat < 0x20 then 0 else 1

/-- Whether the character stands before all controls and letters beyond ASCII. -/
def isNarrow (c : Char) : Bool := c.toNat < 0x7F

/-- The sum of what the characters of a text take. -/
def total (columns : Char → Nat) (cs : List Char) : Nat := (cs.map columns).foldl (· + ·) 0

/-- The columns of a text. -/
def count (cs : List Char) : Nat :=
  total ofAscii (cs.takeWhile isNarrow) +
    total ofChar (Normal.normalize (cs.dropWhile isNarrow))

end KeyClient.Text.Columns
