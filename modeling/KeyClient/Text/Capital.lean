import KeyClient.Text.Capital.Table

/-!
# Capital letters

`capital` is what a letter becomes at the start of a word: its capital, or several letters if it
has no capital of its own.  Characters that take two code units are left as they are.
-/

namespace KeyClient.Text

/-- The capital of a letter; every other character stays as it is. -/
def capital (c : Char) : List Char :=
  if c.toNat < 0x80 then [c.toUpper]
  else
    match Capital.capitals.find? c.toNat with
    | some data => data.map Char.ofNat
    | none => [c]

end KeyClient.Text
