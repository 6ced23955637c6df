import KeyClient.Domain.Direction.Table

/-!
# Writing directions in labels

A label with characters written from right to left must not change its look with what surrounds
it.  `Direction.isStable` says when that is so, depending on the direction of its first character.
-/

namespace KeyClient.Domain

open KeyClient.Text

/-- The classes of characters in text of both directions. -/
inductive Direction where
  | leftToRight
  | rightToLeft
  | arabicLetter
  | arabicNumber
  | europeanNumber
  | europeanSeparator
  | commonSeparator
  | europeanTerminator
  | otherNeutral
  | boundaryNeutral
  | nonspacingMark
deriving DecidableEq, Repr

namespace Direction

/-- The tables with their classes. -/
def tables : List (CodeTable × Direction) :=
  [(Table.leftToRight, .leftToRight), (Table.rightToLeft, .rightToLeft),
    (Table.arabicLetters, .arabicLetter), (Table.arabicNumbers, .arabicNumber),
    (Table.europeanNumbers, .europeanNumber), (Table.europeanSeparators, .europeanSeparator),
    (Table.commonSeparators, .commonSeparator), (Table.europeanTerminators, .europeanTerminator),
    (Table.otherNeutrals, .otherNeutral), (Table.boundaryNeutrals, .boundaryNeutral),
    (Table.nonspacingMarks, .nonspacingMark)]

/-- The class of a character, if it has one. -/
def ofChar? (c : Char) : Option Direction :=
  (tables.find? fun entry => entry.1.contains c.toNat).map Prod.snd

/-- The classes that may stand in a label of either direction. -/
def shared : List Direction :=
  [.europeanNumber, .europeanSeparator, .commonSeparator, .europeanTerminator, .otherNeutral,
    .boundaryNeutral, .nonspacingMark]

/-- The classes that make a label one written from right to left. -/
def reversing : List Direction := [.rightToLeft, .arabicLetter, .arabicNumber]

/-- Whether all characters have one of the given classes. -/
def allIn (classes : List Direction) (directions : List (Option Direction)) : Bool :=
  directions.all (·.any classes.contains)

/-- Whether the label keeps its look wherever it stands.  The marks at its end are not looked at,
and something must be left of it.  With letters from right to left in it, a label that starts from
left to right may hold one of them as its last character only; every other one has no letter from
left to right, ends with a letter or a digit, and its digits are of one kind. -/
def isStable (label : List Char) : Bool :=
  let directions := label.map ofChar?
  let core := (directions.reverse.dropWhile (· == some .nonspacingMark)).reverse
  if core.isEmpty then false
  else if !directions.any (·.any reversing.contains) then true
  else if directions.head? == some (some .leftToRight) then
    allIn (.leftToRight :: shared) core.dropLast
  else
    allIn (reversing ++ shared) core &&
      allIn (.europeanNumber :: reversing) (core.drop (core.length - 1)) &&
      !(core.contains (some .europeanNumber) && core.contains (some .arabicNumber))

end Direction

end KeyClient.Domain
