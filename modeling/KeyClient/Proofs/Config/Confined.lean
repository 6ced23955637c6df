import KeyClient.Proofs.Config.Accepted
import KeyClient.Proofs.Config.Errors

/-!
# Saving changes one file or nothing

A save that succeeds leaves a tree whose entries are known place by place (`Config.entry_save`): the
file holds the configuration, the directories that were missing on the way to it are there, and all
else is as it was.  It succeeds exactly where nothing is in the way (`Config.IsFree`), and otherwise
leaves the tree as it found it (`Config.save_confined`).
-/

namespace KeyClient

open KeyClient.Files KeyClient.Files.Tree.Change

namespace Config

variable {project : Project} {tree : Tree} {value : Value} {config : Config}

/-! ## What a success leaves -/

/-- The directory with the configuration is not around or in its own file. -/
theorem ne_file_of_suffix {place : Place} (within : place <:+ project.directory) :
    place ≠ project.file := by
  intro same
  have longer := within.length_le
  rw [same, Project.file, List.length_cons] at longer
  omega

/-- Every entry of the tree that a stored configuration is in. -/
theorem Stored.entry {later : Tree} (stored : Stored project tree later config) (place : Place) :
    later.entry place =
      if place = project.file then some (.file (documentOctets config.toValue))
      else if place <:+ project.directory ∧ tree.entry place = none then some .directory
      else tree.entry place := by
  by_cases here : place = project.file
  · rw [if_pos here, here]
    exact stored.file
  · rw [if_neg here]
    rcases stored.elsewhere place here with same | ⟨missing, within, made⟩
    · by_cases new : place <:+ project.directory ∧ tree.entry place = none
      · -- Something is in the file, so everything around it is there.
        have there : later.entry project.file ≠ none := by simp [stored.file]
        rw [if_pos new]
        exact Tree.entry_of_suffix new.1 there
      · rw [if_neg new]
        exact same
    · rw [if_pos ⟨within, missing⟩]
      exact made

/-- What a success of saving leaves, place by place, and what is read in the file. -/
theorem entry_save (saved : (save project tree value).result = .ok ()) :
    ∃ config, check value = .ok config ∧ config.toValue = completed value ∧
      readDocument (save project tree value).tree project.file = .ok config.toValue ∧ ∀ place,
      (save project tree value).tree.entry place =
        if place = project.file then some (.file (documentOctets config.toValue))
        else if place <:+ project.directory ∧ tree.entry place = none then some .directory
        else tree.entry place := by
  rcases save_cases project tree value with
    ⟨config, later, valid, done, stored⟩ | ⟨later, error, failed, -⟩
  · rw [done]
    exact ⟨config, valid, toValue_of_check valid, stored.read, stored.entry⟩
  · rw [failed] at saved
    cases saved

/-! ## Where a success is possible -/

/-- Nothing is in the way of the file of a project: its path can be used, no file is around it and
no directory in its place. -/
structure IsFree (project : Project) (tree : Tree) : Prop where
  noNul : project.file.hasNul = false
  around : ∀ place octets, place <:+ project.directory → tree.entry place ≠ some (.file octets)
  place : tree.entry project.file ≠ some .directory

/-- In a tree without files nothing is in the way. -/
theorem isFree_empty (noNul : project.file.hasNul = false) : IsFree project .empty where
  noNul := noNul
  around place octets _ := by
    by_cases root : place = []
    · simp [Tree.empty, root]
    · simp [Tree.empty, root]
  place := nofun

/-- The path of the directory can be used where that of the file can. -/
theorem noNul_directory (h : project.file.hasNul = false) : project.directory.hasNul = false := by
  rw [Project.file, Place.hasNul, List.any_cons, Bool.or_eq_false_iff] at h
  exact h.2

theorem not_isBarred_of_isFree (free : IsFree project tree) (fits : project.file.Fits) :
    ¬ tree.IsBarred project.directory := by
  have fits := fits.parent
  intro barred
  cases barred with
  | nul hasNul => simp [noNul_directory free.noNul] at hasNul
  | path long => simp [fits.path] at long
  | file absent within there => exact free.around _ _ within there
  | name absent mem long => simp [fits.names _ mem] at long

/-- Where the directory can be made and no directory is in the place of the file, saving succeeds. -/
theorem save_of_isFree (valid : check value = .ok config) (free : IsFree project tree)
    (fits : project.file.Fits) : (save project tree value).result = .ok () := by
  have usable : project.directory.IsUsable := ⟨noNul_directory free.noNul, fits.parent.path⟩
  have made := result_ensureDirectory.2 (not_isBarred_of_isFree free fits)
  have noFile : tree.isFile project.directory = false := by
    rw [Bool.eq_false_iff, Ne, Tree.isFile_iff]
    rintro ⟨octets, there⟩
    exact free.around _ octets (List.suffix_refl _) there
  have inside := (isDirectory_ensureDirectory made).2 noFile
  have vacant : (ensureDirectory tree project.directory).tree.entry project.file ≠
      some .directory := by
    have outside : ¬(project.file <:+ project.directory ∧ tree.entry project.file = none) :=
      fun new => ne_file_of_suffix new.1 rfl
    rw [entry_ensureDirectory made, if_neg outside]
    exact free.place
  obtain ⟨later, written⟩ := writeFile_done (isUsable_file usable fits.path) isLongName_fileName
    inside vacant (documentOctets config.toValue)
  rw [save_eq_write valid usable (ensureDirectory_eq_done made) (Tree.has_of_entry inside)]
  rw [Project.file, written]
  rfl

/-- Where a directory is in the place of the file, saving fails. -/
theorem save_of_directory (there : tree.entry project.file = some .directory) (value : Value) :
    ∃ error, (save project tree value).result = .error error := by
  cases valid : check value with
  | error issues => exact ⟨.config (.unsavable issues), by rw [save, valid]; rfl⟩
  | ok config =>
    have inside : tree.entry project.directory = some .directory :=
      tree.closed Project.fileName project.directory (by rw [← Project.file, there]; simp)
    have present := Tree.has_of_entry inside
    rcases ensureDirectory_cases tree project.directory with
      ⟨usable, -, made⟩ | ⟨-, absent, -⟩ | ⟨later, error, made, -⟩
    · obtain ⟨error, failed⟩ := writeFile_of_directory there (documentOctets config.toValue)
      rw [save_eq_write valid usable made present, failed]
      exact ⟨_, rfl⟩
    · rw [present] at absent
      cases absent
    · rw [save, valid]
      dsimp only
      rw [made]
      exact ⟨_, rfl⟩

/-- Where saving succeeds, nothing is in the way. -/
theorem isFree_of_save (saved : (save project tree value).result = .ok ()) :
    IsFree project tree := by
  rcases save_cases project tree value with
    ⟨config, later, -, -, stored⟩ | ⟨later, error, failed, -⟩
  · refine ⟨stored.fileUsable.noNul, fun place octets within there => ?_, fun there => ?_⟩
    · -- A file would still be there, but everything around the file of the project is a directory.
      have entry := stored.entry place
      rw [if_neg (ne_file_of_suffix within), if_neg (by simp [there]), there,
        Tree.entry_of_suffix within (by rw [← Project.file, stored.file]; simp)] at entry
      cases entry
    · obtain ⟨error, failed⟩ := save_of_directory there value
      rw [saved] at failed
      cases failed
  · rw [failed] at saved
    cases saved

/-! ## Both ends of a save -/

/-- **Saving changes one file or nothing.**  Unless some name of the file's place or its whole path
is too long, saving succeeds exactly if the value is that of a configuration and nothing is in the way
of its file.  A failure leaves the tree as it was.  A success leaves the configuration in its file, where
the value is read back with the defaults of the fields that it does not have and without other
members, and a directory wherever one was missing on the way to it, and all else as it was. -/
theorem save_confined (project : Project) (fits : project.file.Fits) (tree : Tree) (value : Value) :
    let change := save project tree value
    (change.result = .ok () ↔ IsAcceptable value ∧ IsFree project tree) ∧
    (∀ error, change.result = .error error → change.tree = tree) ∧
    (change.result = .ok () → ∃ config, check value = .ok config ∧
      config.toValue = completed value ∧
      readDocument change.tree project.file = .ok config.toValue ∧ ∀ place,
      change.tree.entry place =
        if place = project.file then some (.file (documentOctets config.toValue))
        else if place <:+ project.directory ∧ tree.entry place = none then some .directory
        else tree.entry place) := by
  refine ⟨⟨fun saved => ?_, fun ⟨acceptable, free⟩ => ?_⟩, fun error failed => ?_, entry_save⟩
  · obtain ⟨config, valid, -⟩ := entry_save saved
    exact ⟨(accepts_check value).1 ⟨config, valid⟩, isFree_of_save saved⟩
  · obtain ⟨config, valid⟩ := (accepts_check value).2 acceptable
    exact save_of_isFree valid free fits
  · rcases save_cases project tree value with
      ⟨config, later, -, done, -⟩ | ⟨later, error', same, -, unchanged⟩
    · rw [done] at failed
      cases failed
    · rw [same]
      exact unchanged fits

/-- A directory in the place of the file, with all directories around it: nothing is written.  Where
nothing is at all, the directories and the file are. -/
theorem save_confined_occupied :
    let project : Project := ⟨[], "/app"⟩
    let occupied := Tree.empty.fill ["config.json", ".key-cli", "app"]
    let later := (save project .empty Config.default.toValue).tree
    project.file.Fits ∧
    (∃ error, (save project occupied Config.default.toValue).result = .error error) ∧
      (save project occupied Config.default.toValue).tree = occupied ∧
    readDocument later ["config.json", ".key-cli", "app"] = .ok (.object [("version", .ofNat 1),
      ("client", .object [("baseUrl", .string "http://localhost:8080"),
        ("timeoutMs", .ofNat 30000)]), ("logLevel", .string "info")]) ∧
    later.entry ["app"] = some .directory ∧
      later.entry ["config.json", ".key-cli", "app"] =
        some (.file (documentOctets Config.default.toValue)) := by
  intro project occupied later
  have fits : project.file.Fits := ⟨by decide +kernel, by decide +kernel⟩
  have file : project.file = ["config.json", ".key-cli", "app"] := by decide +kernel
  have there : occupied.entry project.file = some .directory := by
    rw [file]
    rfl
  obtain ⟨error, failed⟩ := save_of_directory there Config.default.toValue
  have unchanged := (save_confined project fits occupied Config.default.toValue).2.1 error failed
  have free : IsFree project .empty := isFree_empty (by decide +kernel)
  obtain ⟨succeeds, -, leaves⟩ := save_confined project fits .empty Config.default.toValue
  have saved := succeeds.2 ⟨(accepts_check _).1 ⟨_, check_toValue _⟩, free⟩
  obtain ⟨config, valid, -, read, entries⟩ := leaves saved
  rw [check_toValue] at valid
  cases valid
  have directory : project.directory = [".key-cli", "app"] := by decide +kernel
  rw [file] at read
  refine ⟨fits, ⟨error, failed⟩, unchanged, read, ?_, ?_⟩
  · rw [entries, file, directory, if_neg (by decide), if_pos ⟨⟨[".key-cli"], rfl⟩, rfl⟩]
  · rw [entries, file, if_pos rfl]

end Config

end KeyClient
