import KeyClient.Domain.Direction
import KeyClient.Domain.Label.Table

/-!
# Labels

The parts of a domain name between its dots.  `Label.isValid` says which labels with characters
beyond ASCII are well formed: they start with no mark, and either their first joiner stands where
it changes the look of a letter, or they have none and their direction is stable.
-/

namespace KeyClient.Domain.Label

/-- What an encoded label starts with. -/
def encodedMark : List Char := "xn--".toList

/-- The character that keeps its neighbours from joining. -/
def nonJoiner : Char := '\u200C'

/-- The character that makes its neighbours join. -/
def joiner : Char := '\u200D'

/-- Whether the letter joins the one after it. -/
def joinsForward (c : Char) : Bool :=
  leftJoining.contains c.toNat || dualJoining.contains c.toNat

/-- Whether the letter joins the one before it. -/
def joinsBackward (c : Char) : Bool :=
  rightJoining.contains c.toNat || dualJoining.contains c.toNat

/-- What the first joiner or non-joiner of a text, if it has one, says about a label: behind a mark
without vowel it makes the label well formed, and so does a non-joiner between letters that join;
any other makes it ill formed.  The first argument is the text before, in reverse. -/
def joinerVerdict? (reversed : List Char) : List Char → Option Bool
  | [] => none
  | c :: cs =>
    if c = nonJoiner || c = joiner then
      some ((reversed.head?.any fun d => viramas.contains d.toNat) ||
        (c = nonJoiner && reversed.any joinsForward && cs.any joinsBackward))
    else joinerVerdict? (c :: reversed) cs

/-- Whether the label is well formed. -/
def isValid (label : List Char) : Bool :=
  label.head?.any (fun c => !marks.contains c.toNat) &&
    (joinerVerdict? [] label).getD (Direction.isStable label)

end KeyClient.Domain.Label
