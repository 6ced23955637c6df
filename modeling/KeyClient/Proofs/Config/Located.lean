import KeyClient.Proofs.Config.Confined
import KeyClient.Proofs.Files.Spelling

/-!
# One configuration for one directory

The root directory of a project may be spelled in many ways.  All of them lead to one file with a
configuration, whose path is written in one way (`Project.IsAt`), and another directory leads to
another file.  So no operation depends on the spelling (`ShareConfiguration`), and what has been
saved under one is found under every other (`one_configuration`).
-/

namespace KeyClient.Config

open KeyClient.Files KeyClient.Files.Place

namespace Project

theorem isName_directoryName : IsName directoryName := by decide +kernel

theorem isName_fileName : IsName fileName := by decide +kernel

/-- The root directory is the one with these names, and the paths of the configuration are written
with them. -/
structure IsAt (project : Project) (names : List String) : Prop where
  root : ∀ others, (∀ name ∈ others, IsName name) →
    (SameDirectory project.root (absolute others) ↔ others = names)
  areNames : ∀ name ∈ names, IsName name
  directory : project.directory.path = absolute (names ++ [directoryName])
  file : project.file.path = absolute (names ++ [directoryName, fileName])
  directoryNormal : IsNormal project.directory.path
  fileNormal : IsNormal project.file.path

section

variable {project twin : Project}

theorem directory_inj : project.directory = twin.directory ↔ project.place = twin.place := by
  rw [directory, directory, List.cons.injEq]
  exact and_iff_right rfl

theorem file_inj : project.file = twin.file ↔ project.place = twin.place := by
  rw [← directory_inj, file, file, List.cons.injEq]
  exact and_iff_right rfl

theorem areNames_place (h : IsAbsolute project.root) : ∀ name ∈ project.place, IsName name :=
  isName_of_mem_resolve h project.base

theorem areNames_directory (h : IsAbsolute project.root) :
    ∀ name ∈ project.directory, IsName name :=
  List.forall_mem_cons.2 ⟨isName_directoryName, areNames_place h⟩

theorem areNames_file (h : IsAbsolute project.root) : ∀ name ∈ project.file, IsName name :=
  List.forall_mem_cons.2 ⟨isName_fileName, areNames_directory h⟩

theorem isAt_place (h : IsAbsolute project.root) : project.IsAt project.place.reverse where
  root others names := by
    rw [sameDirectory_iff h (isAbsolute_absolute others) project.base [], resolve_of_names names]
    constructor
    · intro same
      rw [place, same, List.reverse_reverse]
    · intro same
      rw [same, List.reverse_reverse, place]
  areNames name inside := areNames_place h name (List.mem_reverse.1 inside)
  directory := by
    rw [path_eq_absolute, Project.directory, List.reverse_cons]
  file := by
    rw [path_eq_absolute, Project.file, Project.directory, List.reverse_cons, List.reverse_cons,
      List.append_assoc]
    rfl
  directoryNormal := isNormal_path (List.cons_ne_nil _ _) (areNames_directory h)
  fileNormal := isNormal_path (List.cons_ne_nil _ _) (areNames_file h)

end

end Project

/-- What is done with the configuration of one project is done with that of the other. -/
structure ShareConfiguration (project twin : Project) : Prop where
  isConfigured : ∀ tree, project.isConfigured tree = twin.isConfigured tree
  load : ∀ tree, project.isConfigured tree = true → load project tree = load twin tree
  resolve : ∀ tree overrides, resolve project tree overrides = resolve twin tree overrides
  save : ∀ tree value, save project tree value = save twin tree value

section

variable {project twin : Project}

theorem load_congr {tree : Tree} (same : project.file = twin.file)
    (configured : project.isConfigured tree = true) : load project tree = load twin tree := by
  have configured' : twin.isConfigured tree = true := by
    rw [Project.isConfigured, ← same]
    exact configured
  rw [load, load, if_pos configured, if_pos configured', same]

theorem base_congr (same : project.file = twin.file) (tree : Tree) :
    base project tree = base twin tree := by
  have alike : project.isConfigured tree = twin.isConfigured tree := by
    rw [Project.isConfigured, Project.isConfigured, same]
  rw [base, base, ← alike]
  split
  · next configured => exact load_congr same configured
  · rfl

/-- The root directory says everything about the configuration but how it was spelled. -/
theorem shareConfiguration (same : project.place = twin.place) :
    ShareConfiguration project twin := by
  have directory := Project.directory_inj.2 same
  have file := Project.file_inj.2 same
  constructor
  · intro tree
    rw [Project.isConfigured, Project.isConfigured, file]
  · intro tree configured
    exact load_congr file configured
  · intro tree overrides
    rw [resolve, resolve, base_congr file]
  · intro tree value
    rw [save, save, directory, file]

end

/-- **One configuration for one directory.**  Let two projects have absolute root directories, be
they given in different working directories.  Each has its configuration where the names of its
root directory lead, in paths without any other segments; the paths are the same exactly if the two
are spellings of one directory.  Then every operation treats the projects alike, and what is saved
for the one is there, loaded and resolved for the other. -/
theorem one_configuration (project twin : Project) (h : IsAbsolute project.root)
    (h' : IsAbsolute twin.root) :
    (∃ names, project.IsAt names) ∧
    (project.directory.path = twin.directory.path ↔ SameDirectory project.root twin.root) ∧
    (project.file.path = twin.file.path ↔ SameDirectory project.root twin.root) ∧
    (SameDirectory project.root twin.root → ShareConfiguration project twin ∧
      ∀ tree value config, check value = .ok config → (save project tree value).result = .ok () →
        let later := (save project tree value).tree
        twin.isConfigured later = true ∧ load twin later = .ok config ∧
          resolve twin later ⟨.undefined, .undefined⟩ = .ok config) := by
  have places : SameDirectory project.root twin.root ↔ project.place = twin.place :=
    sameDirectory_iff h h' project.base twin.base
  refine ⟨⟨_, Project.isAt_place h⟩, ?_, ?_, ?_⟩
  · rw [path_inj (Project.areNames_directory h) (Project.areNames_directory h'),
      Project.directory_inj, places]
  · rw [path_inj (Project.areNames_file h) (Project.areNames_file h'), Project.file_inj, places]
  · intro same
    have share := shareConfiguration (places.1 same)
    refine ⟨share, ?_⟩
    intro tree value config valid saved later
    have stored := stored_of_save valid saved
    have configured := stored.isConfigured
    refine ⟨?_, ?_, ?_⟩
    · rw [← share.isConfigured]
      exact configured
    · rw [← share.load later configured]
      exact stored.load
    · rw [← share.resolve]
      exact stored.resolve

/-- A root directory spelled with a detour, slashes too many and a way out of the root directory:
what is saved for it is found from elsewhere under its plain path. -/
theorem one_configuration_detour :
    let project : Project := ⟨[], "/../srv//./app/../key/"⟩
    let twin : Project := ⟨["tmp"], "/srv/key"⟩
    let later := (save project .empty Config.default.toValue).tree
    (IsAbsolute project.root ∧ IsAbsolute twin.root ∧ SameDirectory project.root twin.root) ∧
    (∃ names, project.IsAt names) ∧
    project.file.path = twin.file.path ∧
    twin.file.path = "/srv/key/.key-cli/config.json" ∧
    twin.isConfigured later = true ∧ load twin later = .ok Config.default ∧
    resolve twin later ⟨.undefined, .undefined⟩ = .ok Config.default := by
  intro project twin later
  have absolute : IsAbsolute project.root := by decide +kernel
  have absolute' : IsAbsolute twin.root := by decide +kernel
  have same : SameDirectory project.root twin.root :=
    (sameDirectory_iff absolute absolute' [] []).2 (by decide +kernel)
  obtain ⟨located, -, paths, shared⟩ := one_configuration project twin absolute absolute'
  have valid := check_toValue Config.default
  have free : IsFree project .empty := isFree_empty (by decide +kernel)
  have fits : project.file.Fits := ⟨by decide +kernel, by decide +kernel⟩
  have found := (shared same).2 .empty _ _ valid (save_of_isFree valid free fits)
  exact ⟨⟨absolute, absolute', same⟩, located, paths.2 same, by decide +kernel, found⟩

end KeyClient.Config
