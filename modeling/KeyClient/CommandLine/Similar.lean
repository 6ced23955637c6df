import KeyClient.Text.Collation
import KeyClient.Text.Units

/-!
# Similar words

What a mistyped word may have meant: the candidates that are few enough edits away.  An edit
inserts, deletes or replaces a unit or exchanges two neighbours.  `distance` counts the edits,
`similar` selects the nearest candidates and puts them into order, as commander 13.1.0 suggests them.
-/

namespace KeyClient.CommandLine

/-- The distances of the starts of `as` from a text that ends with `unit`: `row` holds them for
the text without its last unit `unit`, `before` for the text that lacks `previous` too. -/
def nextRow (as : List Nat) (previous : Option Nat) (unit : Nat) (before row : List Nat) :
    List Nat :=
  (List.range as.length).foldl (fun cells i =>
    let change := row.getD i 0 + if as[i]? = some unit then 0 else 1
    let edit := min change (min (row.getD (i + 1) 0) (cells.getLastD 0) + 1)
    let exchanged := 0 < i && as[i]? == previous && as[i - 1]? == some unit
    cells ++ [if exchanged then min edit (before.getD (i - 1) 0 + 1) else edit])
    [row.headD 0 + 1]

/-- The distance of `as` from a text, by its units after those that the rows stand for. -/
def lastDistance (as : List Nat) (previous : Option Nat) (before row : List Nat) : List Nat → Nat
  | [] => row.getLastD 0
  | unit :: rest => lastDistance as (some unit) row (nextRow as previous unit before row) rest

/-- No more edits than this make a word similar. -/
def greatestDistance : Nat := 3

/-- The number of edits between two words; the greater length if the lengths are far apart. -/
def distance (a b : List Nat) : Nat :=
  if greatestDistance < a.length - b.length || greatestDistance < b.length - a.length then
    max a.length b.length
  else lastDistance a none [] (List.range (a.length + 1)) b

/-- Whether so many edits leave enough of a word of the given length. -/
def isSimilar (edits length : Nat) : Bool := 4 * length < 10 * (length - edits)

/-- The nearest candidates so far and their distance. -/
structure Nearest where
  edits : Nat
  found : List String
deriving Repr

/-- One more candidate. -/
def Nearest.consider (word : List Nat) (nearest : Nearest) (candidate : String) : Nearest :=
  let units := Text.units candidate.toList
  let edits := distance word units
  if units.length ≤ 1 || !isSimilar edits (max word.length units.length) then nearest
  else if edits < nearest.edits then ⟨edits, [candidate]⟩
  else if edits = nearest.edits then { nearest with found := nearest.found ++ [candidate] }
  else nearest

/-- The candidates that a word may have meant. -/
def similarTo (word : String) (candidates : List String) : List String :=
  ((candidates.foldl (Nearest.consider (Text.units word.toList))
    ⟨greatestDistance, []⟩).found).mergeSort fun a b => Text.Collation.le a.toList b.toList

/-- A word without the two dashes of an option. -/
def dropDashes (word : String) : String := String.ofList (word.toList.drop 2)

/-- The candidates that a word may have meant; both are options if the word is. -/
def similar (word : String) (candidates : List String) : List String :=
  let candidates := candidates.eraseDups
  if "--".toList.isPrefixOf word.toList then
    (similarTo (dropDashes word) (candidates.map dropDashes)).map ("--" ++ ·)
  else similarTo word candidates

end KeyClient.CommandLine
