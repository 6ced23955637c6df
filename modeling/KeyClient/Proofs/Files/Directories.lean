import KeyClient.Proofs.Files.Growth
import Mathlib.Data.List.TakeWhile
import Mathlib.Tactic.ByContra

/-!
# Making sure of a directory

`ensureDirectory` fails exactly where the directory is barred (`Tree.IsBarred`).  A success leaves a
tree whose entries are known place by place (`entry_ensureDirectory`): directories have been made
where nothing was on the way, and all else is as it was.  So there is a directory afterwards, unless
a file was in its place: whatever is there is taken for a directory (`directory_ensured_iff`).
-/

namespace KeyClient.Files

variable {tree : Tree} {place : Place}

/-! ## Directories that cannot be made -/

theorem Place.not_isLongName_of_mem_reached {name : String} (mem : name ∈ place.reached) :
    Place.isLongName name = false := by
  simpa using List.mem_takeWhile_imp (List.mem_reverse.1 mem)

namespace Tree

/-- Why a directory cannot be made: its path cannot be used, or nothing is there and a file is on
the way or some name is too long. -/
inductive IsBarred (tree : Tree) (place : Place) : Prop where
  | nul (hasNul : place.hasNul = true)
  | path (long : place.isLong = true)
  | file {around : Place} {octets : List UInt8} (absent : tree.entry place = none)
      (within : around <:+ place) (there : tree.entry around = some (.file octets))
  | name {name : String} (absent : tree.entry place = none) (mem : name ∈ place)
      (long : Place.isLongName name = true)

theorem isFile_iff :
    tree.isFile place = true ↔ ∃ octets, tree.entry place = some (.file octets) := by
  unfold isFile
  split
  · next octets there => simp [there]
  · next other => simpa using fun octets there => other octets there

theorem isBarred_of_makeDirectories {errno : Errno}
    (h : (tree.makeDirectories place).result = .error errno) : tree.IsBarred place := by
  revert h
  fun_cases makeDirectories tree place with
  | case1 long => exact fun _ => .path long
  | case2 short present => nofun
  | case3 short absent blocked =>
    intro _
    obtain ⟨around, outward, isFile⟩ := List.any_eq_true.1 blocked
    obtain ⟨octets, there⟩ := isFile_iff.1 isFile
    have within := (Place.mem_outward.1 outward).trans place.reached_suffix
    exact .file (has_eq_false_iff.1 (by simpa using absent)) within there
  | case4 short absent free filled whole => nofun
  | case5 short absent free filled cut =>
    intro _
    by_contra bar
    refine cut (Place.reached_eq_self fun name mem => ?_)
    by_contra long
    exact bar (.name (has_eq_false_iff.1 (by simpa using absent)) mem (by simpa using long))

theorem makeDirectories_of_isBarred (h : tree.IsBarred place) (clean : place.hasNul = false) :
    ∃ errno, (tree.makeDirectories place).result = .error errno := by
  fun_cases makeDirectories tree place with
  | case1 long => exact ⟨_, rfl⟩
  | case2 short present =>
    have there := entry_ne_none_of_has present
    cases h with
    | nul hasNul => simp [clean] at hasNul
    | path long => exact absurd long short
    | file absent => exact absurd absent there
    | name absent => exact absurd absent there
  | case3 short absent blocked => exact ⟨_, rfl⟩
  | case4 short absent free filled whole =>
    cases h with
    | nul hasNul => simp [clean] at hasNul
    | path long => exact absurd long short
    | file none within there =>
      have outward := Place.mem_outward.2 (whole.symm ▸ within)
      exact absurd (List.any_eq_true.2 ⟨_, outward, isFile_iff.2 ⟨_, there⟩⟩) free
    | name none mem long =>
      have fine := Place.not_isLongName_of_mem_reached (whole.symm ▸ mem)
      rw [long] at fine
      cases fine
  | case5 short absent free filled cut => exact ⟨_, rfl⟩

end Tree

/-- Making a directory fails exactly where it is barred. -/
theorem ensureDirectory_fails_iff :
    (∃ error, (ensureDirectory tree place).result = .error error) ↔ tree.IsBarred place := by
  unfold ensureDirectory
  cases nul : place.hasNul with
  | true => exact iff_of_true ⟨_, rfl⟩ (.nul nul)
  | false =>
    rw [if_neg Bool.false_ne_true]
    constructor
    · rintro ⟨error, failed⟩
      cases made : (tree.makeDirectories place).result with
      | ok => simp [Tree.Change.mapError, made, Except.mapError] at failed
      | error errno => exact Tree.isBarred_of_makeDirectories made
    · intro barred
      obtain ⟨errno, failed⟩ := Tree.makeDirectories_of_isBarred barred nul
      exact ⟨_, congrArg (Except.mapError _) failed⟩

theorem result_ensureDirectory :
    (ensureDirectory tree place).result = .ok () ↔ ¬tree.IsBarred place := by
  rw [← ensureDirectory_fails_iff]
  constructor
  · rintro made ⟨error, failed⟩
    rw [made] at failed
    cases failed
  · intro never
    cases result : (ensureDirectory tree place).result with
    | ok => rfl
    | error error => exact absurd ⟨error, result⟩ never

/-! ## What a success leaves -/

theorem ensureDirectory_eq_done (made : (ensureDirectory tree place).result = .ok ()) :
    ensureDirectory tree place = .done (ensureDirectory tree place).tree := by
  rw [Tree.Change.done, ← made]

/-- Something is on every part of the way to what is there. -/
theorem Tree.entry_ne_none_of_suffix {around : Place} (within : around <:+ place)
    (there : tree.entry place ≠ none) : tree.entry around ≠ none := by
  cases place with
  | nil =>
    rw [List.suffix_nil.1 within]
    exact there
  | cons name outer =>
    rcases List.suffix_cons_iff.1 within with same | farther
    · rw [same]
      exact there
    · have directory := Tree.entry_of_suffix farther there
      simp [directory]

/-- What is at each place after a success. -/
theorem entry_ensureDirectory (made : (ensureDirectory tree place).result = .ok ()) (p : Place) :
    (ensureDirectory tree place).tree.entry p =
      if p <:+ place ∧ tree.entry p = none then some .directory else tree.entry p := by
  rcases ensureDirectory_cases tree place with
    ⟨-, present, done⟩ | ⟨-, -, kept, done⟩ | ⟨later, error, failed, -⟩
  · have there := Tree.entry_ne_none_of_has present
    have nothingNew : ¬(p <:+ place ∧ tree.entry p = none) := by
      rintro ⟨within, missing⟩
      exact Tree.entry_ne_none_of_suffix within there missing
    rw [done, if_neg nothingNew]
    rfl
  · rw [done]
    show (tree.fill place).entry p = _
    by_cases new : p <:+ place ∧ tree.entry p = none
    · rw [if_pos new]
      exact if_pos new.1
    · rw [if_neg new]
      rcases kept p with same | ⟨missing, within, -⟩
      · exact same
      · exact absurd ⟨within, missing⟩ new
  · rw [failed] at made
    cases made

/-- What is there after a success is a directory, unless it was a file before. -/
theorem isDirectory_ensureDirectory (made : (ensureDirectory tree place).result = .ok ()) :
    (ensureDirectory tree place).tree.entry place = some .directory ↔
      tree.isFile place = false := by
  rw [entry_ensureDirectory made]
  cases entry : tree.entry place with
  | none => simp [Tree.isFile, entry]
  | some found =>
    cases found with
    | directory => simp [Tree.isFile, entry]
    | file octets => simp [Tree.isFile, entry]

/-- After a success there is nothing left to do. -/
theorem ensureDirectory_again (made : (ensureDirectory tree place).result = .ok ()) :
    ensureDirectory (ensureDirectory tree place).tree place =
      .done (ensureDirectory tree place).tree := by
  rcases ensureDirectory_cases tree place with
    ⟨usable, present, done⟩ | ⟨usable, -, -, done⟩ | ⟨later, error, failed, -⟩
  · rw [done]
    exact ensureDirectory_of_has usable present
  · rw [done]
    have there : (tree.fill place).entry place = some .directory := if_pos (List.suffix_refl place)
    exact ensureDirectory_of_has usable (Tree.has_of_entry there)
  · rw [failed] at made
    cases made

/-! ## Both ends -/

/-- **Making sure of a directory.**  It succeeds unless the directory is barred.  After a success
there is a directory exactly if no file was in its place, what was there before is unchanged, all
that is new are the directories that were missing on the way, and doing it again succeeds without
changing anything.  A failure leaves the tree as it was, unless some name or the whole path is too
long. -/
theorem directory_ensured_iff (tree : Tree) (place : Place) :
    let change := ensureDirectory tree place
    (change.result = .ok () ↔ ¬tree.IsBarred place) ∧
    (change.result = .ok () →
      (change.tree.entry place = some .directory ↔ tree.isFile place = false) ∧
      (∀ p, change.tree.entry p =
        if p <:+ place ∧ tree.entry p = none then some .directory else tree.entry p) ∧
      ensureDirectory change.tree place = .done change.tree) ∧
    ∀ error, change.result = .error error → place.Fits → change.tree = tree := by
  intro change
  refine ⟨result_ensureDirectory, ?_, ?_⟩
  · intro made
    exact ⟨isDirectory_ensureDirectory made, entry_ensureDirectory made, ensureDirectory_again made⟩
  · intro error failed fits
    rcases ensureDirectory_cases tree place with
      ⟨-, -, done⟩ | ⟨-, -, -, done⟩ | ⟨later, cause, same, -, unchanged⟩
    · rw [show change = .done tree from done] at failed
      cases failed
    · rw [show change = .done (tree.fill place) from done] at failed
      cases failed
    · rw [show change = .failed later cause from same]
      exact unchanged fits.names

/-- A file in the place of the directory is taken for it and stays; one on the way to the directory
is in the way; where nothing is, the directories are made beside the file. -/
theorem directory_ensured_iff_occupied :
    let tree := Tree.empty.put "a" [] (.file []) rfl nofun
    ((ensureDirectory tree ["a"]).result = .ok () ∧
      (ensureDirectory tree ["a"]).tree.entry ["a"] ≠ some .directory ∧
      ensureDirectory (ensureDirectory tree ["a"]).tree ["a"] =
        .done (ensureDirectory tree ["a"]).tree) ∧
    ((∃ error, (ensureDirectory tree ["b", "a"]).result = .error error) ∧
      (ensureDirectory tree ["b", "a"]).tree = tree) ∧
    ((ensureDirectory tree ["c", "b"]).result = .ok () ∧
      (ensureDirectory tree ["c", "b"]).tree.entry ["c", "b"] = some .directory ∧
      (ensureDirectory tree ["c", "b"]).tree.entry ["b"] = some .directory ∧
      (ensureDirectory tree ["c", "b"]).tree.entry ["a"] = some (.file [])) := by
  intro tree
  have file : tree.entry ["a"] = some (.file []) := rfl
  obtain ⟨-, there, -⟩ := directory_ensured_iff tree ["a"]
  obtain ⟨within, -, failed⟩ := directory_ensured_iff tree ["b", "a"]
  obtain ⟨-, beside, -⟩ := directory_ensured_iff tree ["c", "b"]
  have barred : tree.IsBarred ["b", "a"] := .file rfl ⟨["b"], rfl⟩ file
  have fits : Place.Fits ["b", "a"] := ⟨by decide +kernel, by decide +kernel⟩
  have done : (ensureDirectory tree ["a"]).result = .ok () := by decide +kernel
  have made : (ensureDirectory tree ["c", "b"]).result = .ok () := by decide +kernel
  refine ⟨⟨done, ?_, (there done).2.2⟩, ?_, made, ?_, ?_, ?_⟩
  · rw [Ne, (there done).1]
    simp [Tree.isFile, file]
  · cases result : (ensureDirectory tree ["b", "a"]).result with
    | ok => exact absurd barred (within.1 result)
    | error error => exact ⟨⟨error, rfl⟩, failed error result fits⟩
  · exact (beside made).1.2 rfl
  · rw [(beside made).2.1]
    rfl
  · rw [(beside made).2.1]
    rfl

end KeyClient.Files
