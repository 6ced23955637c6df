import KeyClient.Text.Collation.Table
import KeyClient.Text.Normal

/-!
# The order of words

Words are put into order by three levels: first by their letters alone, then by their marks, and
last by the forms of the letters, small before capital.  A level counts only between words that
are equal on the levels before it.  `Collation.key` lists the weights of a word level by level, so
that `Collation.le` compares keys number by number.
-/

namespace KeyClient.Text.Collation

/-- What a character adds to the three levels; a mark has no place among the letters. -/
structure Weights where
  place : Nat
  mark : Nat
  kind : Nat
deriving DecidableEq, Repr

/-- The weight of a letter on the level of marks. -/
def unmarked : Nat := 0x20

/-- The weight of a character that is no form of another on the level of forms. -/
def plainKind : Nat := 2

/-- The first number that stands for a mark in the table of forms. -/
def firstMark : Nat := 0x110000

/-- Whether the character is one of the common ideographs. -/
def isIdeograph (n : Nat) : Bool :=
  (0x4E00 ≤ n && n ≤ 0x9FFF) ||
    [0xFA0E, 0xFA0F, 0xFA11, 0xFA13, 0xFA14, 0xFA1F, 0xFA21, 0xFA23, 0xFA24, 0xFA27, 0xFA28,
      0xFA29].contains n

/-- The place of a character: behind those of the table come the scripts of the second plane, the
common ideographs and everything else, each by number. -/
def place (n : Nat) : Nat :=
  match (places.find? n).bind List.head? with
  | some place => place
  | none =>
    if 0x10000 ≤ n && n < 0x20000 then 0x10000 + n
    else if isIdeograph n then 0x30000 + n
    else 0x40000 + n

/-- The weights of a number in the table of forms. -/
def ofForm (kind n : Nat) : Weights :=
  if firstMark ≤ n then ⟨0, n - firstMark, kind⟩ else ⟨place n, unmarked, kind⟩

/-- The weights of a character; one that is neither a letter nor a form is taken apart, in at most
the given number of steps. -/
def weights : Nat → Nat → List Weights
  | 0, n => [⟨place n, unmarked, plainKind⟩]
  | steps + 1, n =>
    if ignored.contains n then []
    else
      match (marks.find? n).bind List.head? with
      | some mark => [⟨0, mark, plainKind⟩]
      | none =>
        match forms.find? n with
        | some bases =>
          bases.map (ofForm (((kinds.find? n).bind List.head?).getD plainKind))
        | none =>
          match if places.contains n then none else Normal.parts? n with
          | some parts => parts.flatMap (weights steps)
          | none => [⟨place n, unmarked, plainKind⟩]

/-- Whether the character is a vowel that is written before the consonant it is spoken after. -/
def isLeadingVowel (n : Nat) : Bool :=
  (0x0E40 ≤ n && n ≤ 0x0E44) || (0x0EC0 ≤ n && n ≤ 0x0EC4)

/-- Whether the character is a consonant of a script with such vowels. -/
def isFollowingConsonant (n : Nat) : Bool :=
  (0x0E01 ≤ n && n ≤ 0x0E2E) || (0x0E81 ≤ n && n ≤ 0x0EAE) || (0x0EDC ≤ n && n ≤ 0x0EDF)

/-- The characters of a word in the order in which they are spoken. -/
def spoken : List Char → List Char
  | c :: d :: cs =>
    if isLeadingVowel c.toNat && isFollowingConsonant d.toNat then d :: c :: spoken cs
    else c :: spoken (d :: cs)
  | cs => cs

/-- All weights of a word. -/
def wordWeights (word : List Char) : List Weights :=
  (spoken (Normal.normalize word)).flatMap fun c => weights Normal.mostSteps c.toNat

/-- The weights of a word level by level, with the least one between two levels. -/
def key (word : List Char) : List Nat :=
  let all := wordWeights word
  (all.filter fun w => w.place != 0).map Weights.place ++
    0 :: (all.map Weights.mark ++ 0 :: all.map Weights.kind)

/-- Whether a word stands before another, or both at one place. -/
def le (a b : List Char) : Bool := !(key b).lex (key a) fun m n => decide (m < n)

end KeyClient.Text.Collation
