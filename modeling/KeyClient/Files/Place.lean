import KeyClient.Text.Split

/-!
# Places of files

A place is the way from a file or directory out to the root directory: its own name first, then
the name of the directory it lies in, and so on.  `Place.resolve` finds the place that a path
names without looking at any file, and `Place.path` writes it.  Names and paths are limited in
length; `Place.reached` is the part of a place that the limit for names allows.
-/

namespace KeyClient.Files

/-- Names from the innermost outwards; the root directory has none. -/
abbrev Place := List String

namespace Place

/-- Where one more segment of a path leads. -/
def step (place : Place) (segment : String) : Place :=
  if segment = "" || segment = "." then place
  else if segment = ".." then place.tail
  else segment :: place

/-- The segments of a path. -/
def segments (path : String) : List String :=
  (Text.split (· == '/') path.toList).map String.ofList

/-- The place that a path names, seen from a directory. -/
def resolve (base : Place) (path : String) : Place :=
  (segments path).foldl step (if path.toList.head? = some '/' then [] else base)

/-- The path that names the place everywhere. -/
def path : Place → String
  | [] => "/"
  | place => String.join (place.reverse.map fun name => "/" ++ name)

/-- The place and the directories around it, outwards. -/
def outward : Place → List Place
  | [] => [[]]
  | name :: parent => (name :: parent) :: outward parent

/-- What stands outwards of a place are its ends. -/
theorem mem_outward {place around : Place} : around ∈ place.outward ↔ around <:+ place := by
  induction place with
  | nil => simp [outward]
  | cons name parent ih => simp [outward, ih, List.suffix_cons_iff]

/-! ## Limits -/

/-- The most octets of a name. -/
def mostNameOctets : Nat := 255

/-- The most octets of a path. -/
def mostPathOctets : Nat := 4095

/-- Whether the name is too long for anything to have it. -/
def isLongName (name : String) : Bool := mostNameOctets < name.utf8ByteSize

/-- Whether the path of the place is too long to be used. -/
def isLong (place : Place) : Bool := mostPathOctets < place.path.utf8ByteSize

/-- The part of the place outside of its outermost name that is too long. -/
def reached (place : Place) : Place :=
  (place.reverse.takeWhile fun name => !isLongName name).reverse

/-- A place without names that are too long is reached. -/
theorem reached_eq_self {place : Place} (h : ∀ name ∈ place, isLongName name = false) :
    place.reached = place := by
  have kept : ∀ name ∈ place.reverse, (!isLongName name) = true := fun name hn => by
    simp [h name (List.mem_reverse.1 hn)]
  have taken : (place.reverse ++ []).takeWhile (fun name => !isLongName name) =
      place.reverse ++ [].takeWhile fun name => !isLongName name :=
    List.takeWhile_append_of_pos kept
  rw [List.append_nil] at taken
  rw [reached, taken]
  simp

/-- Whether some name holds the character that ends every path. -/
def hasNul (place : Place) : Bool := place.any fun name => name.toList.contains '\x00'

end Place

end KeyClient.Files
