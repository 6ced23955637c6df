import KeyClient.Proofs.Config.Resolved

/-!
# Saved configurations

Saving writes the configuration that a value stands for, or it fails (`Config.save_cases`).  What
has been written is loaded again, and is what counts for an invocation without overrides
(`Config.Stored.load`, `Config.Stored.resolve`).
-/

namespace KeyClient.Config

open KeyClient.Files KeyClient.Files.Tree.Change

/-! ## Configurations as documents -/

/-- The numbers of a configuration are small. -/
theorem isExact_toValue (config : Config) : config.toValue.IsExact := by
  have timeout := config.client.isTimeout
  simp only [isTimeout, Bool.and_eq_true, decide_eq_true_eq] at timeout
  have small : config.client.timeoutMs < Number.exactBound :=
    Nat.lt_of_le_of_lt timeout.2 (by decide)
  simp [toValue, ClientConfig.toValue, Value.IsExact, Value.HasExact, Value.ofNat, Number.IsExact,
    small]
  decide

/-- A configuration is written in its normal form. -/
theorem normal_toValue (config : Config) : config.toValue.normal = config.toValue := by
  have outer : Members.AreOrdered ["version", "client", "logLevel"] := by decide
  have inner : Members.AreOrdered ["baseUrl", "timeoutMs"] := by decide
  have client : config.client.toValue.normal = config.client.toValue :=
    congrArg Value.object (Members.ofEntries_of_areOrdered inner)
  have members : config.toValue.normal = .ofEntries [("version", .ofNat version),
    ("client", config.client.toValue.normal), ("logLevel", .string config.logLevel.name)] := rfl
  rw [members, client]
  exact congrArg Value.object (Members.ofEntries_of_areOrdered outer)

/-- What is written of a configuration is read back. -/
theorem read?_pretty_toValue (config : Config) :
    Json.read? ((Json.pretty config.toValue).toList ++ ['\n']) = some config.toValue := by
  rw [Json.read?_pretty (isExact_toValue config) nofun, normal_toValue]

theorem read?_documentOctets (config : Config) :
    Json.read? (Text.Utf8.decode (documentOctets config.toValue)) = some config.toValue := by
  rw [Files.read?_documentOctets (isExact_toValue config) nofun, normal_toValue]

/-! ## Saving -/

/-- The configuration is in its file; elsewhere, directories have been made on the way to the file
at most. -/
structure Stored (project : Project) (tree later : Tree) (config : Config) : Prop where
  file : later.entry project.file = some (.file (documentOctets config.toValue))
  elsewhere : ∀ place, place ≠ project.file → tree.IsKeptAt later project.directory place
  directoryUsable : project.directory.IsUsable
  fileUsable : project.file.IsUsable

section

variable {project : Project} {tree : Tree} {value : Value} {config : Config}

theorem isLongName_fileName : Place.isLongName Project.fileName = false := by decide

/-- The name of the file holds no character that ends a path. -/
theorem isUsable_file (directory : project.directory.IsUsable)
    (short : project.file.isLong = false) : project.file.IsUsable where
  noNul := by
    have clean : (Project.fileName.toList.contains '\x00') = false := by decide
    rw [Project.file, Place.hasNul, List.any_cons, clean]
    exact directory.noNul
  path := short

/-- Once the directory is there, saving is writing the file. -/
theorem save_eq_write (valid : check value = .ok config) {ready : Tree}
    (usable : project.directory.IsUsable)
    (made : ensureDirectory tree project.directory = .done ready)
    (present : ready.has project.directory = true) :
    save project tree value =
      ((writeFile ready project.file (documentOctets config.toValue)).mapError fun error =>
        .unwritable project.file (.path error)).mapError fun error =>
          .config (.document error) := by
  have tail : project.file.tail = project.directory := rfl
  rw [save, valid]
  dsimp only
  rw [made, mapError_done, andThen_done, writeDocument, tail, ensureDirectory_of_has usable present,
    andThen_done]

/-- With the directory there, the file is written or nothing changes. -/
theorem save_of_ready (valid : check value = .ok config) {ready : Tree}
    (usable : project.directory.IsUsable)
    (made : ensureDirectory tree project.directory = .done ready)
    (kept : tree.IsKept ready project.directory) (present : ready.has project.directory = true) :
    (∃ later, save project tree value = .done later ∧ Stored project tree later config) ∨
    (∃ error, save project tree value = .failed ready error) ∧
      ∃ error, writeFile ready project.file (documentOctets config.toValue) =
        .failed ready error := by
  have saved := save_eq_write valid usable made present
  rcases writeFile_cases ready project.file (documentOctets config.toValue) with
    ⟨later, written, fileUsable, entries⟩ | ⟨error, failed⟩
  · rw [written, mapError_done, mapError_done] at saved
    refine .inl ⟨later, saved, ?_, fun place other => ?_, usable, fileUsable⟩
    · rw [entries, if_pos rfl]
    · have same : later.entry place = ready.entry place := by rw [entries, if_neg other]
      exact (kept place).trans (.inl same)
  · rw [failed, mapError_failed, mapError_failed] at saved
    exact .inr ⟨⟨_, saved⟩, ⟨error, failed⟩⟩

/-- Saving writes the configuration that the value stands for, or it fails; then nothing changes
unless the place of the file is too long. -/
theorem save_cases (project : Project) (tree : Tree) (value : Value) :
    (∃ config later, check value = .ok config ∧ save project tree value = .done later ∧
      Stored project tree later config) ∨
    (∃ later error, save project tree value = .failed later error ∧
      tree.IsKept later project.directory ∧ (project.file.Fits → later = tree)) := by
  cases valid : check value with
  | error issues =>
    refine .inr ⟨tree, .config (.unsavable issues), ?_, .refl tree _, fun _ => rfl⟩
    rw [save, valid]
  | ok config =>
    rcases ensureDirectory_cases tree project.directory with
      ⟨usable, present, made⟩ | ⟨usable, absent, kept, made⟩ | ⟨later, error, made, kept, unchanged⟩
    · rcases save_of_ready valid usable made (.refl tree _) present with
        ⟨later, saved, stored⟩ | ⟨⟨error, failed⟩, -⟩
      · exact .inl ⟨config, later, rfl, saved, stored⟩
      · exact .inr ⟨tree, error, failed, .refl tree _, fun _ => rfl⟩
    · have inside : (tree.fill project.directory).entry project.directory = some .directory :=
        if_pos (List.suffix_refl _)
      rcases save_of_ready valid usable made kept (Tree.has_of_entry inside) with
        ⟨later, saved, stored⟩ | ⟨⟨error, failed⟩, ⟨_, unwritten⟩⟩
      · exact .inl ⟨config, later, rfl, saved, stored⟩
      · refine .inr ⟨_, error, failed, kept, fun fits => ?_⟩
        -- Nothing is in the way of a file in a new directory.
        have missing : (tree.fill project.directory).entry project.file = none :=
          Tree.entry_fill_inside absent
        have free : (tree.fill project.directory).entry project.file ≠ some .directory := by
          simp [missing]
        obtain ⟨later, written⟩ := writeFile_done (isUsable_file usable fits.path)
          isLongName_fileName inside free (documentOctets config.toValue)
        rw [Project.file, written] at unwritten
        cases congrArg Tree.Change.result unwritten
    · refine .inr ⟨later, .path error, ?_, kept, fun fits => unchanged fun name mem =>
        fits.names name (List.mem_cons_of_mem _ mem)⟩
      rw [save, valid]
      dsimp only
      rw [made, mapError_failed, andThen_failed]

/-! ## Reading back -/

namespace Stored

variable {later : Tree}

theorem isConfigured (stored : Stored project tree later config) :
    project.isConfigured later = true :=
  Tree.has_of_entry stored.file

theorem read (stored : Stored project tree later config) :
    readDocument later project.file = .ok config.toValue := by
  rw [readDocument_of_file stored.file, read?_documentOctets]

/-- A stored configuration is what the file says. -/
theorem holds (stored : Stored project tree later config) : Holds project later (.ok config) :=
  .valid stored.file (read?_documentOctets config) (check_toValue config)

/-- A stored configuration is loaded. -/
theorem load (stored : Stored project tree later config) : load project later = .ok config := by
  rw [load_of_readDocument stored.read, check_toValue]
  rfl

/-- A stored configuration counts where nothing is laid over it. -/
theorem resolve (stored : Stored project tree later config) :
    resolve project later ⟨.undefined, .undefined⟩ = .ok config := by
  have base : base project later = .ok config := by
    rw [Config.base, if_pos stored.isConfigured, stored.load]
  have nothing : (Overrides.mk .undefined .undefined).draft = Draft.empty := rfl
  have whole : (Draft.ofConfig config).merge Draft.empty = Draft.ofConfig config := rfl
  rw [Config.resolve, base]
  dsimp only
  rw [nothing, whole, Draft.check_ofConfig]
  rfl

/-- Saving a stored configuration again changes nothing. -/
theorem save_again (stored : Stored project tree later config) :
    save project later config.toValue = .done later := by
  have inside : later.entry project.directory = some .directory :=
    later.closed Project.fileName project.directory (by
      rw [← Project.file, stored.file]
      exact Option.some_ne_none _)
  have present := Tree.has_of_entry inside
  have ready := ensureDirectory_of_has stored.directoryUsable present
  have written : writeFile later project.file (documentOctets config.toValue) = .done later :=
    writeFile_of_entry stored.fileUsable isLongName_fileName stored.file
  rw [save_eq_write (check_toValue config) stored.directoryUsable ready present, written,
    mapError_done, mapError_done]

end Stored

/-- What a success of saving leaves. -/
theorem stored_of_save (valid : check value = .ok config)
    (saved : (save project tree value).result = .ok ()) :
    Stored project tree (save project tree value).tree config := by
  rcases save_cases project tree value with
    ⟨found, later, stands, done, stored⟩ | ⟨later, error, failed, -⟩
  · rw [valid] at stands
    cases stands
    rw [done]
    exact stored
  · rw [failed] at saved
    cases saved

end

/-- In an empty tree every configuration can be saved below `/app`. -/
theorem result_save_empty (config : Config) :
    (save ⟨[], "/app"⟩ .empty config.toValue).result = .ok () := by
  rw [save, check_toValue]
  rfl

/-- **Saved configurations are read back.**  After a value has been saved, the configuration that it
stands for is loaded and is what counts without overrides, and saving it again succeeds without
changing anything.  So what counts for an invocation with overrides counts without them once it has
been saved. -/
theorem save_reads_back (project : Project) (tree : Tree) :
    (∀ value config, check value = .ok config → (save project tree value).result = .ok () →
      let later := (save project tree value).tree
      load project later = .ok config ∧
        resolve project later ⟨.undefined, .undefined⟩ = .ok config ∧
        (save project later config.toValue).result = .ok () ∧
        (save project later config.toValue).tree = later) ∧
    ∀ overrides config, resolve project tree overrides = .ok config →
      (save project tree config.toValue).result = .ok () →
      resolve project (save project tree config.toValue).tree ⟨.undefined, .undefined⟩ =
        .ok config := by
  refine ⟨fun value config valid saved => ?_, fun overrides config _ saved => ?_⟩
  · have stored := stored_of_save valid saved
    have again := stored.save_again
    exact ⟨stored.load, stored.resolve, by rw [again]; rfl, by rw [again]; rfl⟩
  · exact (stored_of_save (check_toValue config) saved).resolve

/-- A value without a server and with a member of its own, and the configuration of an invocation
with an override. -/
theorem save_reads_back_timeout :
    let project : Project := ⟨[], "/app"⟩
    let value : Value := .object [("client", .object [("timeoutMs", .ofNat 5)]), ("extra", .null)]
    let config : Config := ⟨⟨defaultBaseUrl, 5, ClientConfig.default.isAddress, rfl⟩, .info⟩
    let later := (save project .empty value).tree
    (load project later = .ok config ∧
      resolve project later ⟨.undefined, .undefined⟩ = .ok config ∧
      (save project later config.toValue).result = .ok () ∧
      (save project later config.toValue).tree = later) ∧
    resolve project .empty ⟨.undefined, .ofNat 5⟩ = .ok config ∧
    resolve project (save project .empty config.toValue).tree ⟨.undefined, .undefined⟩ =
      .ok config := by
  have holds := save_reads_back ⟨[], "/app"⟩ .empty
  have first := holds.1 (.object [("client", .object [("timeoutMs", .ofNat 5)]), ("extra", .null)])
    ⟨⟨defaultBaseUrl, 5, ClientConfig.default.isAddress, rfl⟩, .info⟩ rfl rfl
  intro project value config later
  have laid : resolve project .empty ⟨.undefined, .ofNat 5⟩ = .ok config := by
    have merged : (Draft.ofConfig Config.default).merge (Overrides.draft ⟨.undefined, .ofNat 5⟩) =
      Draft.ofConfig config := rfl
    have base : base project .empty = .ok Config.default := rfl
    rw [resolve, base]
    dsimp only
    rw [merged, Draft.check_ofConfig]
    rfl
  exact ⟨first, laid, holds.2 _ config laid (result_save_empty config)⟩

end KeyClient.Config
