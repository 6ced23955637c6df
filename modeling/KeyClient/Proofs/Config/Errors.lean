import KeyClient.Proofs.Config.Saved
import KeyClient.Proofs.Files.Directories

/-!
# Errors about the configuration

Whatever keeps a document from being read or written, a configuration from being loaded or
overrides from being laid over it, the error is one about the configuration, and those about files
name the file.  Saving is the exception: the directory of the configuration is made before the file
is written, and what keeps it from being made (`Tree.IsBarred`) is not put in these terms.
`Config.escapes_iff` says that nothing else escapes.
-/

namespace KeyClient

open KeyClient.Files KeyClient.Files.Tree.Change

/-- The failure is an error about the configuration. -/
def Failure.IsConfig (failure : Failure) : Prop :=
  ∃ message context, failure = .app (.config message context)

/-- The error is one about the configuration, and names a file first in its context. -/
def AppError.IsAbout (error : AppError) (place : Place) : Prop :=
  ∃ message more, ∃ key ∈ ["filePath", "configPath"],
    error = .config message (.object ((key, .string place.path) :: more))

namespace Files

variable {tree : Tree} {place : Place}

/-! ## Documents -/

/-- An error of reading names the file. -/
theorem isAbout_of_readDocument {error : DocumentError}
    (h : readDocument tree place = .error error) : error.toError.IsAbout place := by
  revert h
  fun_cases readDocument tree place with
  | case1 present errno unread =>
    rintro ⟨⟩
    exact ⟨_, _, "filePath", by simp, rfl⟩
  | case2 present octets read value parsed => nofun
  | case3 present octets read unparsed =>
    rintro ⟨⟩
    exact ⟨_, _, "filePath", by simp, rfl⟩
  | case4 absent =>
    rintro ⟨⟩
    exact ⟨_, _, "filePath", by simp, rfl⟩

theorem mapError_eq_error {α ε δ : Type} {f : ε → δ} {result : Except ε α} {error : δ}
    (h : result.mapError f = .error error) : ∃ cause, result = .error cause ∧ error = f cause := by
  cases result with
  | ok a => cases h
  | error cause =>
    cases h
    exact ⟨cause, rfl, rfl⟩

/-- An error of writing names the file, be it that its directory cannot be made. -/
theorem isAbout_of_writeDocument {value : Value} {error : DocumentError}
    (h : (writeDocument tree place value).result = .error error) :
    error.toError.IsAbout place := by
  obtain ⟨cause, -, rfl⟩ := mapError_eq_error h
  exact ⟨_, _, "filePath", by simp, rfl⟩

end Files

/-! ## Configurations -/

namespace Config

variable {project : Project} {tree : Tree}

theorem isAbout_of_load {error : ConfigError} (h : load project tree = .error error) :
    error.toError.IsAbout project.file := by
  revert h
  fun_cases load project tree with
  | case1 configured cause unread =>
    rintro ⟨⟩
    exact isAbout_of_readDocument unread
  | case2 configured value read =>
    intro refused
    obtain ⟨issues, -, rfl⟩ := mapError_eq_error refused
    exact ⟨_, _, "configPath", by simp, rfl⟩
  | case3 absent =>
    rintro ⟨⟩
    exact ⟨_, _, "configPath", by simp, rfl⟩

/-- Overrides that make no configuration are reported by their issues. -/
theorem cases_of_resolve {overrides : Overrides} {error : ConfigError}
    (h : resolve project tree overrides = .error error) :
    error.toError.IsAbout project.file ∨
      ∃ issues, error.toError =
        .config s!"Invalid command-line configuration:\n{issueLines issues}"
          (.object [("issues", issuesValue issues)]) := by
  revert h
  fun_cases resolve project tree overrides with
  | case1 cause unread =>
    rintro ⟨⟩
    rw [base] at unread
    split at unread
    · exact .inl (isAbout_of_load unread)
    · cases unread
  | case2 config found =>
    intro refused
    obtain ⟨issues, -, rfl⟩ := mapError_eq_error refused
    exact .inr ⟨issues, rfl⟩

/-- Until the directory is there, saving does nothing but check the value and make the directory;
what goes wrong after that is about the file. -/
theorem cases_of_save {value : Value} {error : SaveError}
    (h : (save project tree value).result = .error error) :
    (∃ issues, check value = .error issues ∧ error = .config (.unsavable issues)) ∨
    (∃ config, check value = .ok config) ∧
      ((∃ cause, (ensureDirectory tree project.directory).result = .error cause ∧
          error = .path cause) ∨
        (ensureDirectory tree project.directory).result = .ok () ∧
          ∃ cause : DocumentError, cause.toError.IsAbout project.file ∧
            error = .config (.document cause)) := by
  unfold save at h
  cases valid : check value with
  | error issues =>
    rw [valid] at h
    cases h
    exact .inl ⟨issues, rfl, rfl⟩
  | ok config =>
    rw [valid] at h
    refine .inr ⟨⟨config, rfl⟩, ?_⟩
    cases made : (ensureDirectory tree project.directory).result with
    | error cause =>
      simp only [Tree.Change.andThen, Tree.Change.mapError, made, Except.mapError] at h
      cases h
      exact .inl ⟨cause, rfl, rfl⟩
    | ok =>
      simp only [Tree.Change.andThen, Tree.Change.mapError, made, Except.mapError] at h
      obtain ⟨cause, failed, rfl⟩ := mapError_eq_error h
      exact .inr ⟨rfl, cause, isAbout_of_writeDocument failed, rfl⟩

theorem isConfig_of_isAbout {error : AppError} {place : Place} (h : error.IsAbout place) :
    (Failure.app error).IsConfig := by
  obtain ⟨message, more, key, -, rfl⟩ := h
  exact ⟨message, _, rfl⟩

/-- Overrides that make no configuration are refused with an error about it. -/
theorem isConfig_of_resolve {overrides : Overrides} {error : ConfigError}
    (h : resolve project tree overrides = .error error) : (Failure.app error.toError).IsConfig := by
  rcases cases_of_resolve h with about | ⟨issues, same⟩
  · exact isConfig_of_isAbout about
  · exact ⟨_, _, congrArg Failure.app same⟩

theorem not_isConfig_path (cause : PathError) : ¬ (SaveError.path cause).toFailure.IsConfig := by
  rintro ⟨message, context, same⟩
  cases cause <;> cases same

/-- What escapes of saving is what keeps the directory from being made. -/
theorem escapes_iff (project : Project) (tree : Tree) (value : Value) :
    (∃ error, (save project tree value).result = .error error ∧ ¬ error.toFailure.IsConfig) ↔
      (∃ config, check value = .ok config) ∧ tree.IsBarred project.directory := by
  constructor
  · rintro ⟨error, failed, escapes⟩
    rcases cases_of_save failed with
      ⟨issues, -, rfl⟩ | ⟨valid, ⟨cause, unmade, rfl⟩ | ⟨-, cause, about, rfl⟩⟩
    · exact absurd ⟨_, _, rfl⟩ escapes
    · exact ⟨valid, ensureDirectory_fails_iff.1 ⟨cause, unmade⟩⟩
    · exact absurd (isConfig_of_isAbout about) escapes
  · rintro ⟨⟨config, valid⟩, barred⟩
    obtain ⟨cause, unmade⟩ := ensureDirectory_fails_iff.2 barred
    refine ⟨.path cause, ?_, not_isConfig_path cause⟩
    rw [save, valid]
    simp only [Tree.Change.andThen, Tree.Change.mapError, unmade, Except.mapError]
    rfl

/-- **Errors about the configuration.**  For every tree, project, place and value: what is thrown
when a document is read or written, or a configuration is loaded, is an error about the
configuration that names the file, and overrides are refused with such an error as well.  Saving a
configuration is no exception unless its directory cannot be made; then the failure of making it
escapes as it is. -/
theorem raised_config (project : Project) (tree : Tree) :
    (∀ place error, readDocument tree place = .error error → error.toError.IsAbout place) ∧
    (∀ place value error, (writeDocument tree place value).result = .error error →
      error.toError.IsAbout place) ∧
    (∀ error, load project tree = .error error → error.toError.IsAbout project.file) ∧
    (∀ overrides error, resolve project tree overrides = .error error →
      error.toError.IsAbout project.file ∨
        ∃ issues, error.toError =
          .config s!"Invalid command-line configuration:\n{issueLines issues}"
            (.object [("issues", issuesValue issues)])) ∧
    ∀ value,
      (∃ error, (save project tree value).result = .error error ∧
        ¬ error.toFailure.IsConfig) ↔
      (∃ config, check value = .ok config) ∧ tree.IsBarred project.directory :=
  ⟨fun _ _ => isAbout_of_readDocument, fun _ _ _ => isAbout_of_writeDocument,
    fun _ => isAbout_of_load, fun _ _ => cases_of_resolve, escapes_iff project tree⟩

/-- A file stands where the project should be: it cannot be read as a directory, and what saving
throws is no error about the configuration. -/
theorem raised_config_blocked :
    let project : Project := ⟨[], "/app"⟩
    let tree := Tree.empty.put "app" [] (.file []) rfl nofun
    (∃ error, load project tree = .error error ∧ error.toError.IsAbout project.file) ∧
    (∃ error, (save project tree Config.default.toValue).result = .error error ∧
      ¬ error.toFailure.IsConfig) := by
  intro project tree
  obtain ⟨-, -, loading, -, saving⟩ := raised_config project tree
  have absent : load project tree = .error (.absent project.file project.root) := rfl
  have nothing : tree.entry project.directory = none := rfl
  have there : tree.entry ["app"] = some (.file []) := rfl
  have directory : project.directory = [".key-cli", "app"] := by decide +kernel
  have within : ["app"] <:+ project.directory := directory ▸ ⟨[".key-cli"], rfl⟩
  exact ⟨⟨_, absent, loading _ absent⟩,
    (saving _).2 ⟨⟨_, check_toValue _⟩, .file nothing within there⟩⟩

end Config

end KeyClient
