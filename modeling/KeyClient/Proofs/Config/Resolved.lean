import KeyClient.Config.Store
import KeyClient.Proofs.Config.Checked
import KeyClient.Proofs.Files.Documents

/-!
# Resolved configurations

What counts for an invocation is decided in an order: first by what is at the place of the file
(`Config.Holds`), then by the overrides alone, and only then do the overrides that are given take
the place of what the file or the defaults say.  `Config.Resolution` lists the ways this can go, and
`Config.resolve_iff` says that resolving goes exactly one of them.
-/

namespace KeyClient.Config

open KeyClient.Files

/-! ## What overrides are laid over -/

/-- What the place of the file holds: the configuration that overrides are laid over, or the error
of a file that is none. -/
inductive Holds (project : Project) (tree : Tree) : Except ConfigError Config → Prop
  | nothing (absent : tree.entry project.file = none) : Holds project tree (.ok Config.default)
  | directory (there : tree.entry project.file = some .directory) :
      Holds project tree (.error (.document (.unreadable project.file
        (.path (.system ⟨.isDirectory, "read", project.file.path⟩)))))
  | malformed {octets : List UInt8} (there : tree.entry project.file = some (.file octets))
      (unread : Json.read? (Text.Utf8.decode octets) = none) :
      Holds project tree (.error (.document (.unreadable project.file .malformed)))
  | rejected {octets : List UInt8} {value : Value} {issues : List Issue}
      (there : tree.entry project.file = some (.file octets))
      (read : Json.read? (Text.Utf8.decode octets) = some value)
      (invalid : check value = .error issues) :
      Holds project tree (.error (.invalidFile project.file issues))
  | valid {octets : List UInt8} {value : Value} {config : Config}
      (there : tree.entry project.file = some (.file octets))
      (read : Json.read? (Text.Utf8.decode octets) = some value)
      (valid : check value = .ok config) : Holds project tree (.ok config)

section

variable {project : Project} {tree : Tree}

theorem base_of_none (absent : tree.entry project.file = none) :
    base project tree = .ok Config.default := by
  have unconfigured : project.isConfigured tree = false := Tree.has_eq_false_iff.2 absent
  rw [base, unconfigured, if_neg Bool.false_ne_true]

/-- A document that is read is checked. -/
theorem load_of_readDocument {value : Value} (read : readDocument tree project.file = .ok value) :
    load project tree = (check value).mapError (.invalidFile project.file) := by
  have configured : project.isConfigured tree = true := by
    unfold readDocument at read
    split at read
    · assumption
    · cases read
  rw [load, if_pos configured, read]

/-- An entry counts by what is read of it. -/
theorem base_of_some {entry : Entry} (there : tree.entry project.file = some entry) :
    base project tree =
      match readDocument tree project.file with
      | .error error => .error (.document error)
      | .ok value => (check value).mapError (.invalidFile project.file) := by
  have configured : project.isConfigured tree = true := Tree.has_of_entry there
  exact (if_pos configured).trans (if_pos configured)

theorem holds_base (project : Project) (tree : Tree) :
    Holds project tree (base project tree) := by
  cases there : tree.entry project.file with
  | none =>
    rw [base_of_none there]
    exact .nothing there
  | some entry =>
    rw [base_of_some there]
    cases entry with
    | directory =>
      rw [readDocument_of_directory there]
      exact .directory there
    | file octets =>
      rw [readDocument_of_file there]
      cases read : Json.read? (Text.Utf8.decode octets) with
      | none => exact .malformed there read
      | some value =>
        dsimp only
        cases checked : check value with
        | error issues => exact .rejected there read checked
        | ok config => exact .valid there read checked

/-- The place of the file holds nothing else. -/
theorem Holds.base_eq {found : Except ConfigError Config} (h : Holds project tree found) :
    base project tree = found := by
  cases h with
  | nothing absent => exact base_of_none absent
  | directory there => rw [base_of_some there, readDocument_of_directory there]
  | malformed there unread => rw [base_of_some there, readDocument_of_file there, unread]
  | rejected there read invalid =>
    rw [base_of_some there, readDocument_of_file there, read]
    dsimp only
    rw [invalid]
    rfl
  | valid there read valid =>
    rw [base_of_some there, readDocument_of_file there, read]
    dsimp only
    rw [valid]
    rfl

end

/-! ## Overrides by themselves -/

/-- The issues are about the checked value as a whole, and there are some. -/
def AreOwn (issues : List Issue) : Prop := issues ≠ [] ∧ ∀ issue ∈ issues, issue.path = []

/-- Own issues are nowhere but at the value itself. -/
theorem AreOwn.mem_path_iff {issues : List Issue} (own : AreOwn issues) (path : List String) :
    path ∈ issues.map Issue.path ↔ path = [] := by
  obtain ⟨some, here⟩ := own
  constructor
  · intro mem
    obtain ⟨issue, among, rfl⟩ := List.mem_map.1 mem
    exact here issue among
  · rintro rfl
    obtain ⟨issue, among⟩ := List.exists_mem_of_ne_nil _ some
    exact List.mem_map.2 ⟨issue, among, here issue among⟩

theorem areOwn_of_checkBaseUrl {v : Value} {issues : List Issue}
    (h : checkBaseUrl v = .error issues) : AreOwn issues := by
  revert h
  fun_cases checkBaseUrl v with
  | case1 | case2 =>
    intro refused
    cases refused
  | case3 | case4 =>
    rintro ⟨⟩
    simp [AreOwn]

/-- The range of time limits. -/
theorem isTimeout_iff {n : Nat} : isTimeout n = true ↔ 1 ≤ n ∧ n ≤ 600000 := by
  rw [isTimeout, Bool.and_eq_true, decide_eq_true_eq, decide_eq_true_eq]
  rfl

/-- A number that is no time limit has a fault. -/
theorem timeoutFaults_ne_nil {n : Number} (h : ∀ i : Nat, n = .integer i → isTimeout i = false) :
    timeoutFaults n ≠ [] := by
  cases n with
  | integer i =>
    by_cases small : i < 1
    · have low : i ≤ 1 := by omega
      have ne : i ≠ 1 := by omega
      simp [timeoutFaults, leastTimeout, low, ne]
    · have big : ¬ i ≤ 600000 := by
        intro bounded
        have same : (i.toNat : Int) = i := by omega
        have limit : isTimeout i.toNat = true := isTimeout_iff.2 (by omega)
        rw [h i.toNat (congrArg Number.integer same.symm)] at limit
        cases limit
      simp [timeoutFaults, greatestTimeout, big]
  | negativeZero => decide
  | _ => simp [timeoutFaults, Number.isWhole]

theorem areOwn_of_checkTimeout {v : Value} {issues : List Issue}
    (h : checkTimeout v = .error issues) : AreOwn issues := by
  have faults : ∀ {n : Number}, (∀ i : Nat, n = .integer i → isTimeout i = false) →
      AreOwn ((timeoutFaults n).map fun fault => ⟨[], fault⟩) := fun outside =>
    ⟨by simpa using timeoutFaults_ne_nil outside, by simp⟩
  revert h
  fun_cases checkTimeout v with
  | case1 | case3 =>
    intro refused
    cases refused
  | case2 =>
    rintro ⟨⟩
    simp [AreOwn]
  | case4 i outside =>
    rintro ⟨⟩
    refine faults fun k same => ?_
    cases same
    simpa using outside
  | case5 n _ other =>
    rintro ⟨⟩
    exact faults fun i same => absurd same (other i)
  | case6 =>
    rintro ⟨⟩
    simp [AreOwn]

theorem exists_checkBaseUrl_eq_ok_iff {v : Value} (present : v ≠ .undefined) :
    (∃ result, checkBaseUrl v = .ok result) ↔
      ∃ text : String, v = .string text ∧ (Url.parse? text.toList).isSome := by
  simp only [checkBaseUrl_eq_ok_iff present]
  exact ⟨fun ⟨⟨text, address⟩, same⟩ => ⟨text, same, address⟩,
    fun ⟨text, same, address⟩ => ⟨⟨text, address⟩, same⟩⟩

theorem exists_checkTimeout_eq_ok_iff {v : Value} (present : v ≠ .undefined) :
    (∃ result, checkTimeout v = .ok result) ↔ ∃ n : Nat, v = .ofNat n ∧ 1 ≤ n ∧ n ≤ 600000 := by
  simp only [checkTimeout_eq_ok_iff present]
  exact ⟨fun ⟨⟨n, limit⟩, same⟩ => ⟨n, same, isTimeout_iff.1 limit⟩,
    fun ⟨n, same, limit⟩ => ⟨⟨n, isTimeout_iff.2 limit⟩, same⟩⟩

namespace Overrides

/-- A server is given that is no address. -/
def HasWrongBaseUrl (overrides : Overrides) : Prop :=
  overrides.baseUrl.isNullish = false ∧
    ¬ ∃ text : String, overrides.baseUrl = .string text ∧ (Url.parse? text.toList).isSome

/-- A time limit is given that is no whole number in range. -/
def HasWrongTimeout (overrides : Overrides) : Prop :=
  overrides.timeoutMs.isNullish = false ∧
    ¬ ∃ n : Nat, overrides.timeoutMs = .ofNat n ∧ 1 ≤ n ∧ n ≤ 600000

/-- What a check says of a value that is given for a field of the client. -/
def fieldIssues {α : Type} (field : String) (check : Value → Checked α) (v : Value) : List Issue :=
  if v.isNullish then []
  else
    match check v with
    | .ok _ => []
    | .error issues => (issues.map (·.within field)).map (·.within "client")

/-- What is wrong with the overrides that are given. -/
def issues (overrides : Overrides) : List Issue :=
  fieldIssues "baseUrl" checkBaseUrl overrides.baseUrl ++
    fieldIssues "timeoutMs" checkTimeout overrides.timeoutMs

/-- The issues of a field are located at the field, and there are some if what is given for it is
not accepted. -/
theorem mem_path_fieldIssues {α : Type} {field : String} {check : Value → Checked α} {v : Value}
    (own : ∀ issues, check v = .error issues → AreOwn issues) (path : List String) :
    path ∈ (fieldIssues field check v).map Issue.path ↔
      path = ["client", field] ∧ v.isNullish = false ∧ ¬ ∃ a, check v = .ok a := by
  unfold fieldIssues
  cases given : v.isNullish with
  | true => simp
  | false =>
    cases checked : check v with
    | ok a => simp
    | error issues =>
      have paths : ((issues.map (·.within field)).map (·.within "client")).map Issue.path =
          (issues.map Issue.path).map fun inner => "client" :: field :: inner := by
        simp [Issue.within]
      have refused : ¬ ∃ a, (.error issues : Checked α) = .ok a := by
        rintro ⟨a, ⟨⟩⟩
      rw [if_neg Bool.false_ne_true, paths, List.mem_map]
      simp only [(own issues checked).mem_path_iff, exists_eq_left, refused, not_false_eq_true,
        and_true, eq_comm]

theorem ne_undefined_of_given {v : Value} (given : v.isNullish = false) : v ≠ .undefined := by
  rintro rfl
  cases given

theorem hasWrongBaseUrl_iff (overrides : Overrides) :
    overrides.HasWrongBaseUrl ↔
      overrides.baseUrl.isNullish = false ∧ ¬ ∃ a, checkBaseUrl overrides.baseUrl = .ok a :=
  and_congr_right fun given =>
    not_congr (exists_checkBaseUrl_eq_ok_iff (ne_undefined_of_given given)).symm

theorem hasWrongTimeout_iff (overrides : Overrides) :
    overrides.HasWrongTimeout ↔
      overrides.timeoutMs.isNullish = false ∧ ¬ ∃ a, checkTimeout overrides.timeoutMs = .ok a :=
  and_congr_right fun given =>
    not_congr (exists_checkTimeout_eq_ok_iff (ne_undefined_of_given given)).symm

/-- Issues are located at the fields for which something wrong is given. -/
theorem mem_path_issues (overrides : Overrides) (path : List String) :
    path ∈ overrides.issues.map Issue.path ↔
      path = ["client", "baseUrl"] ∧ overrides.HasWrongBaseUrl ∨
        path = ["client", "timeoutMs"] ∧ overrides.HasWrongTimeout := by
  rw [issues, List.map_append, List.mem_append,
    mem_path_fieldIssues (fun _ => areOwn_of_checkBaseUrl),
    mem_path_fieldIssues (fun _ => areOwn_of_checkTimeout), hasWrongBaseUrl_iff,
    hasWrongTimeout_iff]

theorem issues_ne_nil_iff (overrides : Overrides) :
    overrides.issues ≠ [] ↔ overrides.HasWrongBaseUrl ∨ overrides.HasWrongTimeout := by
  constructor
  · intro some
    obtain ⟨issue, mem⟩ := List.exists_mem_of_ne_nil _ some
    have located := (overrides.mem_path_issues issue.path).1 (List.mem_map_of_mem mem)
    exact located.imp And.right And.right
  · intro wrong none
    have nowhere : ∀ path, path ∉ overrides.issues.map Issue.path := by simp [none]
    rcases wrong with wrong | wrong
    · exact nowhere _ ((overrides.mem_path_issues _).2 (.inl ⟨rfl, wrong⟩))
    · exact nowhere _ ((overrides.mem_path_issues _).2 (.inr ⟨rfl, wrong⟩))

end Overrides

/-! ## Laying overrides over a configuration -/

/-- A value over one that is accepted is accepted itself, or it is what is wrong. -/
theorem check_orElse_cases {α : Type} {check : Value → Checked α} {old v : Value}
    (accepted : ∃ a, check old = .ok a)
    (own : ∀ issues, check v = .error issues → AreOwn issues) (field : String) :
    (∃ a, check (v.orElse old) = .ok a ∧ Overrides.fieldIssues field check v = []) ∨
      ∃ issues, issues ≠ [] ∧ check (v.orElse old) = .error issues ∧
        Overrides.fieldIssues field check v =
          (issues.map (·.within field)).map (·.within "client") := by
  obtain ⟨a, accepted⟩ := accepted
  unfold Value.orElse Overrides.fieldIssues
  cases v.isNullish with
  | true => exact .inl ⟨a, accepted, rfl⟩
  | false =>
    simp only [if_neg Bool.false_ne_true]
    cases checked : check v with
    | ok b => exact .inl ⟨b, rfl, rfl⟩
    | error issues => exact .inr ⟨issues, (own issues checked).1, rfl, rfl⟩

theorem orElse_ne_undefined {old : Value} (present : old ≠ .undefined) (v : Value) :
    v.orElse old ≠ .undefined := by
  unfold Value.orElse
  cases v <;> simp [Value.isNullish, present]

/-- The members of a client with overrides over those of an old one. -/
def laidMembers (overrides : Overrides) (client : ClientConfig) : Members :=
  [("baseUrl", overrides.baseUrl.orElse (.string client.baseUrl)),
    ("timeoutMs", overrides.timeoutMs.orElse (.ofNat client.timeoutMs))]

theorem checkClient_laidMembers (overrides : Overrides) (client : ClientConfig) :
    checkClient (.object (laidMembers overrides client)) =
      (both ((checkBaseUrl (overrides.baseUrl.orElse (.string client.baseUrl))).mapError
          (·.map (·.within "baseUrl")))
        ((checkTimeout (overrides.timeoutMs.orElse (.ofNat client.timeoutMs))).mapError
          (·.map (·.within "timeoutMs")))).map fun (baseUrl, timeout) =>
            ⟨baseUrl.1, timeout.1, baseUrl.2, timeout.2⟩ := rfl

/-- A client with overrides over it has the laid members, or the issues of the overrides. -/
theorem checkClient_laid_cases (overrides : Overrides) (client : ClientConfig) :
    (overrides.issues = [] ∧
      ∃ laid : ClientConfig, checkClient (.object (laidMembers overrides client)) = .ok laid ∧
        laid.toValue = .object (laidMembers overrides client)) ∨
    ∃ issues, issues ≠ [] ∧
      checkClient (.object (laidMembers overrides client)) = .error issues ∧
      overrides.issues = issues.map (·.within "client") := by
  have oldBaseUrl : ∃ a, checkBaseUrl (.string client.baseUrl) = .ok a :=
    ⟨⟨client.baseUrl, client.isAddress⟩, dif_pos client.isAddress⟩
  have oldTimeout : ∃ a, checkTimeout (.ofNat client.timeoutMs) = .ok a :=
    ⟨⟨client.timeoutMs, client.isTimeout⟩,
      (checkTimeout_eq_ok_iff (by simp [Value.ofNat])).2 rfl⟩
  have someBaseUrl : overrides.baseUrl.orElse (.string client.baseUrl) ≠ .undefined :=
    orElse_ne_undefined (by simp) _
  have someTimeout : overrides.timeoutMs.orElse (.ofNat client.timeoutMs) ≠ .undefined :=
    orElse_ne_undefined (by simp [Value.ofNat]) _
  rw [checkClient_laidMembers, Overrides.issues]
  rcases check_orElse_cases oldBaseUrl (fun _ => areOwn_of_checkBaseUrl (v := overrides.baseUrl))
    "baseUrl" with ⟨baseUrl, okBaseUrl, noBaseUrl⟩ | ⟨baseUrls, neBaseUrl, wrongBaseUrl, hasBaseUrl⟩
  · rcases check_orElse_cases oldTimeout
      (fun _ => areOwn_of_checkTimeout (v := overrides.timeoutMs)) "timeoutMs" with
      ⟨timeout, okTimeout, noTimeout⟩ | ⟨timeouts, neTimeout, wrongTimeout, hasTimeout⟩
    · have baseUrlIs := (checkBaseUrl_eq_ok_iff someBaseUrl).1 okBaseUrl
      have timeoutIs := (checkTimeout_eq_ok_iff someTimeout).1 okTimeout
      rw [okBaseUrl, okTimeout, noBaseUrl, noTimeout, laidMembers, baseUrlIs, timeoutIs]
      exact .inl ⟨rfl, _, rfl, rfl⟩
    · rw [okBaseUrl, wrongTimeout, noBaseUrl, hasTimeout]
      exact .inr ⟨_, by simpa using neTimeout, rfl, rfl⟩
  · rcases check_orElse_cases oldTimeout
      (fun _ => areOwn_of_checkTimeout (v := overrides.timeoutMs)) "timeoutMs" with
      ⟨timeout, okTimeout, noTimeout⟩ | ⟨timeouts, neTimeout, wrongTimeout, hasTimeout⟩
    · rw [wrongBaseUrl, okTimeout, hasBaseUrl, noTimeout, List.append_nil]
      exact .inr ⟨_, by simpa using neBaseUrl, rfl, rfl⟩
    · rw [wrongBaseUrl, wrongTimeout, hasBaseUrl, hasTimeout, ← List.map_append]
      exact .inr ⟨_, by simp [neBaseUrl], rfl, rfl⟩

/-- A configuration with overrides over it has the laid members in its client, or the issues of the
overrides. -/
theorem check_merge_cases (overrides : Overrides) (config : Config) :
    let checked := ((Draft.ofConfig config).merge overrides.draft).check
    (overrides.issues = [] ∧ ∃ laid : Config, checked = .ok laid ∧
      laid.logLevel = config.logLevel ∧
      laid.client.toValue = .object (laidMembers overrides config.client)) ∨
    overrides.issues ≠ [] ∧ checked = .error overrides.issues := by
  intro checked
  have level : checkLevel (.string config.logLevel.name) = .ok config.logLevel :=
    checkLevelName_eq_ok_iff.2 rfl
  have whole : checked = (both (.ok ()) (both
      ((checkClient (.object (laidMembers overrides config.client))).mapError
        (·.map (·.within "client")))
      ((checkLevel (.string config.logLevel.name)).mapError
        (·.map (·.within "logLevel"))))).map fun fields => ⟨fields.2.1, fields.2.2⟩ := rfl
  rw [whole, level]
  rcases checkClient_laid_cases overrides config.client with
    ⟨none, laid, accepted, members⟩ | ⟨issues, ne, refused, located⟩
  · rw [accepted]
    exact .inl ⟨none, _, rfl, rfl, members⟩
  · rw [refused, located]
    exact .inr ⟨by simpa using ne, rfl⟩

/-! ## Resolving -/

/-- The ways that resolving can go: the error of the file, the error of the overrides, or the
configuration of the file or the defaults with the overrides that are given in their places. -/
inductive Resolution (project : Project) (tree : Tree) (overrides : Overrides) :
    Except ConfigError Config → Prop
  | broken {error : ConfigError} (holds : Holds project tree (.error error)) :
      Resolution project tree overrides (.error error)
  | refused {base : Config} (holds : Holds project tree (.ok base))
      (wrong : overrides.HasWrongBaseUrl ∨ overrides.HasWrongTimeout) :
      Resolution project tree overrides (.error (.invalidOverrides overrides.issues))
  | laid {base config : Config} (holds : Holds project tree (.ok base))
      (rightBaseUrl : ¬ overrides.HasWrongBaseUrl) (rightTimeout : ¬ overrides.HasWrongTimeout)
      (value : config.toValue = .object [("version", .ofNat 1),
        ("client", .object [("baseUrl", overrides.baseUrl.orElse (.string base.client.baseUrl)),
          ("timeoutMs", overrides.timeoutMs.orElse (.ofNat base.client.timeoutMs))]),
        ("logLevel", .string base.logLevel.name)]) :
      Resolution project tree overrides (.ok config)

/-- A configuration is known by what is written of it. -/
theorem toValue_injective : Function.Injective toValue := by
  intro config other same
  have checked := check_toValue config
  rw [same, check_toValue other] at checked
  exact (Except.ok.inj checked).symm

/-- Resolving goes one of the ways. -/
theorem resolution_resolve (project : Project) (tree : Tree) (overrides : Overrides) :
    Resolution project tree overrides (resolve project tree overrides) := by
  have holds := holds_base project tree
  unfold resolve
  cases found : base project tree with
  | error error =>
    rw [found] at holds
    exact .broken holds
  | ok config =>
    rw [found] at holds
    rcases check_merge_cases overrides config with
      ⟨none, laid, accepted, level, members⟩ | ⟨some, refused⟩
    · dsimp only
      rw [accepted]
      have right := fun wrong => overrides.issues_ne_nil_iff.2 wrong none
      refine .laid holds (right ∘ .inl) (right ∘ .inr) ?_
      rw [toValue, level, members]
      rfl
    · dsimp only
      rw [refused]
      exact .refused holds (overrides.issues_ne_nil_iff.1 some)

/-- No two ways are open. -/
theorem Resolution.resolve_eq {project : Project} {tree : Tree} {overrides : Overrides}
    {result : Except ConfigError Config} (h : Resolution project tree overrides result) :
    resolve project tree overrides = result := by
  cases h with
  | broken holds => rw [resolve, holds.base_eq]
  | @refused config holds wrong =>
    rw [resolve, holds.base_eq]
    dsimp only
    rcases check_merge_cases overrides config with ⟨none, -⟩ | ⟨-, refused⟩
    · exact absurd none (overrides.issues_ne_nil_iff.2 wrong)
    · rw [refused]
      rfl
  | @laid config config' holds rightBaseUrl rightTimeout value =>
    rw [resolve, holds.base_eq]
    dsimp only
    rcases check_merge_cases overrides config with
      ⟨-, laid, accepted, level, members⟩ | ⟨some, -⟩
    · have same : laid.toValue = config'.toValue := by
        rw [value, toValue, level, members]
        rfl
      rw [accepted, toValue_injective same]
      rfl
    · exact ((overrides.issues_ne_nil_iff.1 some).elim rightBaseUrl rightTimeout).elim

/-- **Resolved configurations.**  Resolving goes exactly one way.  An entry at the place of the file
that is no valid configuration is the error, whatever the overrides are; otherwise overrides that
are given and wrong by themselves are; otherwise the overrides that are given count, and what the
file or the defaults say for all else.  The issues of overrides are located exactly at those that
are given and wrong. -/
theorem resolve_iff (project : Project) (tree : Tree) (overrides : Overrides) :
    (∀ result, resolve project tree overrides = result ↔
      Resolution project tree overrides result) ∧
    ∀ path, path ∈ overrides.issues.map Issue.path ↔
      path = ["client", "baseUrl"] ∧ overrides.HasWrongBaseUrl ∨
        path = ["client", "timeoutMs"] ∧ overrides.HasWrongTimeout := by
  refine ⟨fun result => ⟨?_, Resolution.resolve_eq⟩, overrides.mem_path_issues⟩
  rintro rfl
  exact resolution_resolve project tree overrides

end KeyClient.Config
