import KeyClient.Files.Document

/-!
# What writing leaves of a tree

A tree is kept on the way to a place (`Tree.IsKept`) if all that happens to it is that directories
are made on that way.  This is what `makeDirectories` does at most; it changes nothing at all where
it fails without a name that is too long, or where something is at the place.  `writeFile` changes
the entry of its own place, or nothing.
-/

namespace KeyClient.Files

namespace Place

theorem reached_suffix (place : Place) : place.reached <:+ place := by
  have taken : (place.reverse.takeWhile fun name => !isLongName name) <+: place.reverse :=
    List.takeWhile_prefix _
  rw [← List.reverse_suffix, List.reverse_reverse] at taken
  exact taken

/-- Neither the path nor a name of the place is too long. -/
structure Fits (place : Place) : Prop where
  names : ∀ name ∈ place, isLongName name = false
  path : place.isLong = false

/-- A path is longer than that of the directory it goes through. -/
theorem utf8ByteSize_path_le (name : String) (parent : Place) :
    (path parent).utf8ByteSize ≤ (path (name :: parent)).utf8ByteSize := by
  cases parent with
  | nil => simp [path]
  | cons outer around => simp [path]

theorem Fits.parent {name : String} {parent : Place} (fits : Fits (name :: parent)) :
    Fits parent where
  names other mem := fits.names other (List.mem_cons_of_mem _ mem)
  path := by
    have whole := fits.path
    have shorter := utf8ByteSize_path_le name parent
    simp only [isLong, decide_eq_false_iff_not] at whole ⊢
    omega

/-- The path of the place can be used. -/
structure IsUsable (place : Place) : Prop where
  noNul : place.hasNul = false
  path : place.isLong = false

end Place

namespace Tree

variable {tree later last : Tree} {place target : Place}

theorem has_of_entry {entry : Entry} (there : tree.entry place = some entry) :
    tree.has place = true := by
  rw [has, there]
  rfl

theorem has_eq_false_iff : tree.has place = false ↔ tree.entry place = none := by
  rw [has, Option.isSome_eq_false_iff, Option.isNone_iff_eq_none]

theorem entry_ne_none_of_has (present : tree.has place = true) : tree.entry place ≠ none := by
  intro nothing
  rw [has_eq_false_iff.2 nothing] at present
  cases present

/-- What is at a place is still there, or there is now one of the directories on the way to the
target where nothing was. -/
def IsKeptAt (tree later : Tree) (target place : Place) : Prop :=
  later.entry place = tree.entry place ∨
    tree.entry place = none ∧ place <:+ target ∧ later.entry place = some .directory

theorem IsKeptAt.refl (tree : Tree) (target place : Place) : tree.IsKeptAt tree target place :=
  .inl rfl

theorem IsKeptAt.trans {place : Place} (h : tree.IsKeptAt later target place)
    (h' : later.IsKeptAt last target place) : tree.IsKeptAt last target place := by
  rcases h' with kept | ⟨missing, within, made⟩
  · rcases h with kept' | ⟨missing', within, made⟩
    · exact .inl (kept.trans kept')
    · exact .inr ⟨missing', within, kept.trans made⟩
  · rcases h with kept | ⟨missing', -, made'⟩
    · exact .inr ⟨kept.symm.trans missing, within, made⟩
    · rw [made'] at missing
      cases missing

theorem IsKeptAt.mono {inner place : Place} (h : tree.IsKeptAt later target place)
    (within : target <:+ inner) : tree.IsKeptAt later inner place :=
  h.imp_right fun ⟨missing, around, made⟩ => ⟨missing, around.trans within, made⟩

/-- All that has happened to the tree is that directories were made on the way to the target. -/
def IsKept (tree later : Tree) (target : Place) : Prop :=
  ∀ place, tree.IsKeptAt later target place

theorem IsKept.refl (tree : Tree) (target : Place) : tree.IsKept tree target :=
  fun place => .refl tree target place

/-- Where no file is on the way to the target, the way is filled with directories. -/
theorem isKept_fill (free : ∀ place, place <:+ target → tree.isFile place = false) :
    tree.IsKept (tree.fill target) target := by
  intro place
  by_cases within : place <:+ target
  · have made : (tree.fill target).entry place = some .directory := if_pos within
    cases entry : tree.entry place with
    | none => exact .inr ⟨entry, within, made⟩
    | some found =>
      cases found with
      | directory => exact .inl (made.trans entry.symm)
      | file octets =>
        have isFile : tree.isFile place = true := by simp [isFile, entry]
        rw [free place within] at isFile
        cases isFile
  · exact .inl (if_neg within)

/-- Whatever is around something is a directory. -/
theorem entry_of_suffix {tree : Tree} {place around : Place} (within : around <:+ place)
    {name : String} (there : tree.entry (name :: place) ≠ none) :
    tree.entry around = some .directory := by
  have parent := tree.closed name place there
  induction place generalizing name with
  | nil =>
    rw [List.suffix_nil.1 within]
    exact parent
  | cons next outer ih =>
    rcases List.suffix_cons_iff.1 within with same | farther
    · rw [same]
      exact parent
    · have inside : tree.entry (next :: outer) ≠ none := by simp [parent]
      exact ih farther inside (tree.closed next outer inside)

/-- Where nothing is at a place, nothing is inside it. -/
theorem entry_eq_none_of_outside {name : String} {place : Place} (h : tree.has place = false) :
    tree.entry (name :: place) = none := by
  cases entry : tree.entry (name :: place) with
  | none => rfl
  | some found =>
    have directory := tree.closed name place (by simp [entry])
    rw [has_of_entry directory] at h
    cases h

/-- Nothing is inside a directory that has just been made. -/
theorem entry_fill_inside {name : String} {place : Place} (h : tree.has place = false) :
    (tree.fill place).entry (name :: place) = none := by
  have outside : ¬name :: place <:+ place := fun within => by
    have shorter := within.length_le
    rw [List.length_cons] at shorter
    omega
  exact (if_neg outside).trans (entry_eq_none_of_outside h)

namespace Change

variable {ε δ : Type}

@[simp] theorem mapError_done (f : ε → δ) (tree : Tree) : (done tree).mapError f = done tree := rfl

@[simp] theorem mapError_failed (f : ε → δ) (tree : Tree) (error : ε) :
    (failed tree error).mapError f = failed tree (f error) := rfl

@[simp] theorem andThen_done (tree : Tree) (next : Tree → Change ε) :
    (done tree).andThen next = next tree := rfl

@[simp] theorem andThen_failed (tree : Tree) (error : ε) (next : Tree → Change ε) :
    (failed tree error).andThen next = failed tree error := rfl

end Change

/-! ## Making directories -/

/-- Directories need not be made, or are made all the way, or it fails; then nothing changes unless
some name is too long. -/
theorem makeDirectories_cases (tree : Tree) (place : Place) :
    (place.isLong = false ∧ tree.has place = true ∧ tree.makeDirectories place = .done tree) ∨
    (place.isLong = false ∧ tree.has place = false ∧ tree.IsKept (tree.fill place) place ∧
      tree.makeDirectories place = .done (tree.fill place)) ∨
    (∃ later errno, tree.makeDirectories place = .failed later errno ∧ tree.IsKept later place ∧
      ((∀ name ∈ place, Place.isLongName name = false) → later = tree)) := by
  cases long : place.isLong with
  | true => exact .inr (.inr ⟨tree, _, if_pos long, .refl tree place, fun _ => rfl⟩)
  | false =>
    have short : ¬place.isLong = true := by simp [long]
    cases present : tree.has place with
    | true => exact .inl ⟨rfl, rfl, by rw [makeDirectories, if_neg short, if_pos present]⟩
    | false =>
      have absent : ¬tree.has place = true := by simp [present]
      by_cases blocked : place.reached.outward.any tree.isFile = true
      · refine .inr (.inr ⟨tree, .notDirectory, ?_, .refl tree place, fun _ => rfl⟩)
        rw [makeDirectories, if_neg short, if_neg absent, if_pos blocked]
      · have free : ∀ around, around <:+ place.reached → tree.isFile around = false := by
          intro around within
          have outward : around ∈ place.reached.outward := Place.mem_outward.2 within
          simpa using fun isFile => blocked (List.any_eq_true.2 ⟨around, outward, isFile⟩)
        have made : tree.makeDirectories place =
            if place.reached = place then .done (tree.fill place.reached)
            else .failed (tree.fill place.reached) .nameTooLong := by
          rw [makeDirectories, if_neg short, if_neg absent, if_neg blocked]
        have kept := isKept_fill free
        -- A name that is too long stops the making of directories halfway, and what has been made
        -- stays: the only failure that leaves something behind.
        by_cases whole : place.reached = place
        · rw [if_pos whole] at made
          rw [whole] at made kept
          exact .inr (.inl ⟨rfl, rfl, kept, made⟩)
        · rw [if_neg whole] at made
          exact .inr (.inr ⟨_, _, made, fun p => (kept p).mono place.reached_suffix,
            fun names => absurd (Place.reached_eq_self names) whole⟩)

end Tree

open KeyClient.Files.Tree KeyClient.Files.Tree.Change

variable {tree : Tree} {place : Place}

/-- As `makeDirectories_cases` says, for a path that can be used. -/
theorem ensureDirectory_cases (tree : Tree) (place : Place) :
    (place.IsUsable ∧ tree.has place = true ∧ ensureDirectory tree place = .done tree) ∨
    (place.IsUsable ∧ tree.has place = false ∧ tree.IsKept (tree.fill place) place ∧
      ensureDirectory tree place = .done (tree.fill place)) ∨
    (∃ later error, ensureDirectory tree place = .failed later error ∧ tree.IsKept later place ∧
      ((∀ name ∈ place, Place.isLongName name = false) → later = tree)) := by
  cases nul : place.hasNul with
  | true =>
    exact .inr (.inr ⟨tree, .hasNul place.path, if_pos nul, .refl tree place, fun _ => rfl⟩)
  | false =>
    have clean : ¬place.hasNul = true := by simp [nul]
    rcases makeDirectories_cases tree place with
      ⟨short, present, made⟩ | ⟨short, absent, kept, made⟩ | ⟨later, errno, made, kept, unchanged⟩
    · refine .inl ⟨⟨nul, short⟩, present, ?_⟩
      rw [ensureDirectory, if_neg clean, made, mapError_done]
    · refine .inr (.inl ⟨⟨nul, short⟩, absent, kept, ?_⟩)
      rw [ensureDirectory, if_neg clean, made, mapError_done]
    · refine .inr (.inr ⟨later, .system ⟨errno, "mkdir", place.path⟩, ?_, kept, unchanged⟩)
      rw [ensureDirectory, if_neg clean, made, mapError_failed]

/-- A directory is not made again. -/
theorem ensureDirectory_of_has (usable : place.IsUsable) (present : tree.has place = true) :
    ensureDirectory tree place = .done tree := by
  have short : ¬place.isLong = true := by simp [usable.path]
  have clean : ¬place.hasNul = true := by simp [usable.noNul]
  rw [ensureDirectory, if_neg clean, makeDirectories, if_neg short, if_pos present, mapError_done]

/-! ## Writing files -/

theorem Tree.write_ok {octets : List UInt8} {later : Tree} :
    tree.write place octets = .ok later → place.isLong = false ∧
      ∀ p, later.entry p = if p = place then some (.file octets) else tree.entry p := by
  fun_cases Tree.write tree place octets with
  | case5 name parent inside _ _ short =>
    rintro ⟨⟩
    exact ⟨by simpa using short, fun p => rfl⟩
  | _ => nofun

/-- A file is written into a directory, or nothing changes. -/
theorem writeFile_cases (tree : Tree) (place : Place) (octets : List UInt8) :
    (∃ later, writeFile tree place octets = .done later ∧ place.IsUsable ∧
      ∀ p, later.entry p = if p = place then some (.file octets) else tree.entry p) ∨
    ∃ error, writeFile tree place octets = .failed tree error := by
  cases nul : place.hasNul with
  | true => exact .inr ⟨.hasNul place.path, if_pos nul⟩
  | false =>
    have clean : ¬place.hasNul = true := by simp [nul]
    rw [writeFile, if_neg clean]
    cases written : tree.write place octets with
    | error errno => exact .inr ⟨_, rfl⟩
    | ok later =>
      obtain ⟨short, entries⟩ := Tree.write_ok written
      exact .inl ⟨later, rfl, ⟨nul, short⟩, entries⟩

/-- A file can be written into a directory where no directory is. -/
theorem writeFile_done {name : String} {parent : Place} (usable : Place.IsUsable (name :: parent))
    (short : Place.isLongName name = false) (inside : tree.entry parent = some .directory)
    (free : tree.entry (name :: parent) ≠ some .directory) (octets : List UInt8) :
    ∃ later, writeFile tree (name :: parent) octets = .done later := by
  have clean : ¬Place.hasNul (name :: parent) = true := by simp [usable.noNul]
  refine ⟨tree.put name parent (.file octets) inside fun h => absurd h free, ?_⟩
  rw [writeFile, if_neg clean, Tree.write, if_neg (by simp [usable.path]), dif_pos inside,
    if_neg (by simp [short]), dif_neg free]
  rfl

/-- A directory is not replaced by a file. -/
theorem writeFile_of_directory {tree : Tree} {place : Place}
    (there : tree.entry place = some .directory) (octets : List UInt8) :
    ∃ error, writeFile tree place octets = .failed tree error := by
  have refused : ∃ errno, tree.write place octets = .error errno := by
    fun_cases Tree.write tree place octets with
    | case5 name parent inside _ free _ => exact absurd there free
    | _ => exact ⟨_, rfl⟩
  obtain ⟨errno, refused⟩ := refused
  unfold writeFile
  split
  · exact ⟨_, rfl⟩
  · rw [refused]
    exact ⟨_, rfl⟩

/-- Writing the octets that a file has changes nothing. -/
theorem writeFile_of_entry {name : String} {parent : Place}
    (usable : Place.IsUsable (name :: parent)) (short : Place.isLongName name = false)
    {octets : List UInt8} (file : tree.entry (name :: parent) = some (.file octets)) :
    writeFile tree (name :: parent) octets = .done tree := by
  have inside : tree.entry parent = some .directory := tree.closed name parent (by simp [file])
  obtain ⟨later, done⟩ := writeFile_done usable short inside (by simp [file]) octets
  rcases writeFile_cases tree (name :: parent) octets with ⟨later', done', -, entries⟩ | failed
  · have same : later' = tree := by
      ext1
      funext p
      rw [entries]
      split
      · next here => rw [here, file]
      · rfl
    rw [done', same]
  · obtain ⟨error, failed⟩ := failed
    rw [done] at failed
    cases congrArg Change.result failed

end KeyClient.Files
