import KeyClient.Files.Place

/-!
# File trees

A tree says for every place what is there, and whatever is there lies in a directory.  The
operations are those of a file system without permissions: `read`, `write`, `makeDirectories` and
`remove`.  They fail with the errors that a file system gives.  Then nothing has changed, but for
directories made on the way to a name that is too long.
-/

namespace KeyClient.Files

/-- What is at a place. -/
inductive Entry where
  | directory
  | file (octets : List UInt8)
deriving DecidableEq, Repr

/-- Why an operation on a tree fails. -/
inductive Errno where
  | noEntry
  | notDirectory
  | isDirectory
  | exists
  | nameTooLong
deriving DecidableEq, Repr

namespace Errno

/-- The name of the error. -/
def name : Errno → String
  | noEntry => "ENOENT"
  | notDirectory => "ENOTDIR"
  | isDirectory => "EISDIR"
  | .exists => "EEXIST"
  | nameTooLong => "ENAMETOOLONG"

/-- The error in words. -/
def description : Errno → String
  | noEntry => "no such file or directory"
  | notDirectory => "not a directory"
  | isDirectory => "illegal operation on a directory"
  | .exists => "file already exists"
  | nameTooLong => "name too long"

end Errno

/-- What is at each place; everything lies in directories, out to the root. -/
@[ext] structure Tree where
  entry : Place → Option Entry
  root : entry [] = some .directory
  closed : ∀ name place, entry (name :: place) ≠ none → entry place = some .directory

namespace Tree

/-- The tree with nothing but the root directory. -/
def empty : Tree where
  entry place := if place = [] then some .directory else none
  root := rfl
  closed := by intro name place h; simp at h

/-- Whether something is at the place. -/
def has (tree : Tree) (place : Place) : Bool := (tree.entry place).isSome

/-- Whether a file is at the place. -/
def isFile (tree : Tree) (place : Place) : Bool :=
  match tree.entry place with
  | some (.file _) => true
  | _ => false

/-- Put an entry into a directory; a directory is not replaced by a file. -/
def put (tree : Tree) (name : String) (place : Place) (entry : Entry)
    (inside : tree.entry place = some .directory)
    (keeps : tree.entry (name :: place) = some .directory → entry = .directory) : Tree where
  entry p := if p = name :: place then some entry else tree.entry p
  root := by simp [tree.root]
  closed := by
    intro n p h
    by_cases here : p = name :: place
    · subst here
      have : tree.entry (n :: name :: place) ≠ none := by simpa using h
      simp [keeps (tree.closed _ _ this)]
    · simp only [here, if_false]
      by_cases new : n :: p = name :: place
      · obtain ⟨-, rfl⟩ := List.cons.inj new
        exact inside
      · exact tree.closed n p (by simpa [new] using h)

/-- Make all places on the way to a place directories. -/
def fill (tree : Tree) (place : Place) : Tree where
  entry p := if p <:+ place then some .directory else tree.entry p
  root := by simp
  closed := by
    intro n p h
    by_cases inner : n :: p <:+ place
    · simp [(List.suffix_cons n p).trans inner]
    · by_cases outer : p <:+ place
      · simp [outer]
      · simp only [outer, if_false]
        exact tree.closed n p (by simpa [inner] using h)

/-- Why nothing is, or can be, at a place: the outermost thing that is in the way. -/
def barrier (tree : Tree) : Place → Errno
  | [] => .noEntry
  | name :: parent =>
    if tree.entry parent = some .directory then
      if Place.isLongName name then .nameTooLong
      else if tree.has (name :: parent) then .notDirectory
      else .noEntry
    else tree.barrier parent

/-- The octets of a file. -/
def read (tree : Tree) (place : Place) : Except Errno (List UInt8) :=
  match tree.entry place with
  | some (.file octets) => .ok octets
  | some .directory => .error .isDirectory
  | none => .error (tree.barrier place)

/-- Write a file into a directory, in place of an older one. -/
def write (tree : Tree) (place : Place) (octets : List UInt8) : Except Errno Tree :=
  if place.isLong then .error .nameTooLong
  else
    match place with
    | [] => .error .isDirectory
    | name :: parent =>
      if inside : tree.entry parent = some .directory then
        if Place.isLongName name then .error .nameTooLong
        else if taken : tree.entry (name :: parent) = some .directory then .error .isDirectory
        else .ok (tree.put name parent (.file octets) inside fun h => absurd h taken)
      else .error (tree.barrier parent)

/-- What an operation leaves of a tree, and whether it succeeded. -/
structure Change (ε : Type) where
  tree : Tree
  result : Except ε Unit

namespace Change

variable {ε δ : Type}

/-- A success. -/
def done (tree : Tree) : Change ε := ⟨tree, .ok ()⟩

/-- A failure. -/
def failed (tree : Tree) (error : ε) : Change ε := ⟨tree, .error error⟩

/-- A new tree, or the old one with an error. -/
def ofExcept (tree : Tree) : Except ε Tree → Change ε
  | .ok new => done new
  | .error error => failed tree error

/-- The change with its error in other words. -/
def mapError (f : ε → δ) (change : Change ε) : Change δ := ⟨change.tree, change.result.mapError f⟩

/-- Go on with what a success leaves. -/
def andThen (change : Change ε) (next : Tree → Change ε) : Change ε :=
  match change.result with
  | .ok () => next change.tree
  | .error error => failed change.tree error

end Change

/-- Make the directories that are missing on the way to a place, and one there if nothing is. -/
def makeDirectories (tree : Tree) (place : Place) : Change Errno :=
  if place.isLong then .failed tree .nameTooLong
  else if tree.has place then .done tree
  else if place.reached.outward.any tree.isFile then .failed tree .notDirectory
  else
    let filled := tree.fill place.reached
    if place.reached = place then .done filled else .failed filled .nameTooLong

/-- Remove what is at a place with everything inside; the root directory stays. -/
def remove (tree : Tree) (place : Place) : Tree :=
  if proper : place = [] then tree
  else
    { entry := fun p => if place <:+ p then none else tree.entry p
      root := by simp [tree.root, proper]
      closed := by
        intro n p h
        by_cases outer : place <:+ n :: p
        · simp [outer] at h
        · have inner : ¬ place <:+ p := fun h => outer (h.trans (List.suffix_cons n p))
          simp only [inner, if_false]
          exact tree.closed n p (by simpa [outer] using h) }

end Tree

end KeyClient.Files
