import KeyClient.Text.Normal.Table

/-!
# The composed normal form

`normalize` brings a text into the form in which no two texts that look the same differ: every
character is taken apart, marks are put into the order of their classes, and what can be composed
is composed again.  Syllables of Hangul compose by arithmetic, all others by table.
-/

namespace KeyClient.Text.Normal

/-- The combining class of a character. -/
def combiningClass (c : Char) : Nat := ((combiningClasses.find? c.toNat).bind List.head?).getD 0

/-! ## Syllables -/

/-- The first of the syllables. -/
def firstSyllable : Nat := 0xAC00

/-- The first of the leads, which stand at the start of a syllable. -/
def firstLead : Nat := 0x1100

/-- The first of the vowels. -/
def firstVowel : Nat := 0x1161

/-- One before the first of the tails, since a syllable need not have one. -/
def noTail : Nat := 0x11A7

/-- The number of leads. -/
def leads : Nat := 19

/-- The number of vowels. -/
def vowels : Nat := 21

/-- The number of tails, the missing one counted too. -/
def tails : Nat := 28

/-- Whether the character is a syllable. -/
def isSyllable (n : Nat) : Bool :=
  firstSyllable ≤ n && n < firstSyllable + leads * vowels * tails

/-- Lead, vowel and, if there is one, tail of a syllable. -/
def decomposeSyllable (n : Nat) : List Nat :=
  let i := n - firstSyllable
  let pair := [firstLead + i / (vowels * tails), firstVowel + i / tails % vowels]
  if i % tails = 0 then pair else pair ++ [noTail + i % tails]

/-- The syllable of a lead and a vowel, or of a syllable without a tail and a tail. -/
def composeSyllable? (a b : Nat) : Option Nat :=
  if firstLead ≤ a && a < firstLead + leads && firstVowel ≤ b && b < firstVowel + vowels then
    some (firstSyllable + ((a - firstLead) * vowels + (b - firstVowel)) * tails)
  else if isSyllable a && (a - firstSyllable) % tails == 0 && noTail < b && b < noTail + tails then
    some (a + (b - noTail))
  else none

/-! ## Decomposition -/

/-- The least character that has parts. -/
def firstComposite : Nat := 0xC0

/-- The parts of a character in one step. -/
def parts? (n : Nat) : Option (List Nat) :=
  if n < firstComposite then none
  else if isSyllable n then some (decomposeSyllable n)
  else (composites.find? n).or (decomposites.find? n)

/-- The parts of a character in at most the given number of steps. -/
def decompose : Nat → Nat → List Nat
  | 0, n => [n]
  | steps + 1, n =>
    match parts? n with
    | some parts => parts.flatMap (decompose steps)
    | none => [n]

/-- No character needs more steps than this. -/
def mostSteps : Nat := 5

/-- Put a character before a text, behind the marks of a lower class at its start. -/
def insertMark (c : Char) : List Char → List Char
  | [] => [c]
  | d :: ds =>
    if combiningClass d != 0 && combiningClass d < combiningClass c then d :: insertMark c ds
    else c :: d :: ds

/-- Put every sequence of marks into the order of their classes. -/
def reorder (cs : List Char) : List Char := cs.foldr insertMark []

/-! ## Composition -/

/-- The least character that a mark composes with. -/
def firstBase : Nat := 0x3C

/-- The least mark. -/
def firstMark : Nat := 0x300

/-- The character that two characters compose to. -/
def compose? (a b : Char) : Option Char :=
  if a.toNat < firstBase || b.toNat < firstMark then none
  else match composeSyllable? a.toNat b.toNat with
  | some n => some (Char.ofNat n)
  | none =>
    (List.find? (fun run : Run => run.data == [a.toNat, b.toNat]) composites).map fun run =>
      Char.ofNat run.first

/-- Compose a text behind a starter and the marks that follow it, latest first. -/
def composeAfter (starter : Char) (marks : List Char) : List Char → List Char
  | [] => starter :: marks.reverse
  | c :: cs =>
    let free := marks.all fun mark => combiningClass mark < combiningClass c
    match if free then compose? starter c else none with
    | some composed => composeAfter composed marks cs
    | none =>
      if combiningClass c = 0 then starter :: marks.reverse ++ composeAfter c [] cs
      else composeAfter starter (c :: marks) cs

/-- Compose what can be composed. -/
def compose : List Char → List Char
  | [] => []
  | c :: cs => if combiningClass c = 0 then composeAfter c [] cs else c :: compose cs

/-- The composed normal form of a text. -/
def normalize (cs : List Char) : List Char :=
  compose (reorder (cs.flatMap fun c => (decompose mostSteps c.toNat).map Char.ofNat))

end KeyClient.Text.Normal
