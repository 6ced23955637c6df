import KeyClient.Proofs.Config.Resolved

/-!
# What a configuration must be

A configuration has five fields, and `Field.Admits` says what each of them may hold.  Checks of
fields are put together without anything being lost (`issuesOf_both`, `accepts_both`), so a value is
accepted exactly if it is an object in which every field holds what it may (`accepts_check`), and
what is refused has an issue at each field that does not and at no other (`mem_pathsOf_check`).
-/

namespace KeyClient

/-- The value, or a default in place of an undefined one. -/
def Value.orDefault (v default : Value) : Value :=
  match v with
  | .undefined => default
  | v => v

namespace Config

open KeyClient.Files

/-! ## Fields -/

/-- The fields of a configuration. -/
inductive Field where
  | version
  | client
  | baseUrl
  | timeoutMs
  | logLevel
deriving DecidableEq

namespace Field

/-- Where a field is. -/
def path : Field → List String
  | version => ["version"]
  | client => ["client"]
  | baseUrl => ["client", "baseUrl"]
  | timeoutMs => ["client", "timeoutMs"]
  | logLevel => ["logLevel"]

/-- What a value has in a field. -/
def value (v : Value) (field : Field) : Value := field.path.foldl Value.field v

/-- What a field may hold. -/
def Admits : Field → Value → Prop
  | version, v => v = .undefined ∨ v = .ofNat 1
  | client, v => ∃ members, v = .object members
  | baseUrl, v => v = .undefined ∨ ∃ text, v = .string text ∧ (Url.parse? text.toList).isSome
  | timeoutMs, v => v = .undefined ∨ ∃ n : Nat, v = .ofNat n ∧ 1 ≤ n ∧ n ≤ 600000
  | logLevel, v =>
    v = .undefined ∨ ∃ name ∈ ["debug", "info", "warn", "error", "silent"], v = .string name

/-- The field of a value does not hold what it may. -/
def Offends (v : Value) (field : Field) : Prop := ¬ field.Admits (field.value v)

theorem forall_iff {p : Field → Prop} :
    (∀ field, p field) ↔ p version ∧ p client ∧ p baseUrl ∧ p timeoutMs ∧ p logLevel := by
  constructor
  · intro all
    exact ⟨all _, all _, all _, all _, all _⟩
  · rintro ⟨version, client, baseUrl, timeoutMs, logLevel⟩ field
    cases field <;> assumption

theorem exists_iff {p : Field → Prop} :
    (∃ field, p field) ↔ p version ∨ p client ∨ p baseUrl ∨ p timeoutMs ∨ p logLevel := by
  rw [← not_iff_not, not_exists, forall_iff]
  simp only [not_or]

end Field

/-- The value is an object, and every field in it holds what it may. -/
structure IsAcceptable (v : Value) : Prop where
  object : ∃ members, v = .object members
  fields : ∀ field : Field, field.Admits (field.value v)

/-- The fields of a configuration as they are given, or their defaults. -/
def completed (v : Value) : Value :=
  .object [("version", (v.field "version").orDefault (.ofNat 1)),
    ("client", .object
      [("baseUrl", ((v.field "client").field "baseUrl").orDefault (.string "http://localhost:8080")),
        ("timeoutMs", ((v.field "client").field "timeoutMs").orDefault (.ofNat 30000))]),
    ("logLevel", (v.field "logLevel").orDefault (.string "info"))]

/-! ## Checks put together -/

section

variable {α β : Type}

/-- The check finds nothing wrong. -/
def Accepts (checked : Checked α) : Prop := ∃ a, checked = .ok a

/-- What a check finds wrong. -/
def issuesOf : Checked α → List Issue
  | .ok _ => []
  | .error issues => issues

theorem not_accepts_error (issues : List Issue) : ¬ Accepts (.error issues : Checked α) := by
  rintro ⟨a, ⟨⟩⟩

theorem accepts_map (checked : Checked α) (f : α → β) :
    Accepts (checked.map f) ↔ Accepts checked := by
  cases checked with
  | ok a => exact iff_of_true ⟨f a, rfl⟩ ⟨a, rfl⟩
  | error issues => exact iff_of_false (not_accepts_error issues) (not_accepts_error issues)

theorem issuesOf_map (checked : Checked α) (f : α → β) :
    issuesOf (checked.map f) = issuesOf checked := by
  cases checked <;> rfl

theorem accepts_both (first : Checked α) (second : Checked β) :
    Accepts (both first second) ↔ Accepts first ∧ Accepts second := by
  cases first <;> cases second <;> simp [both, Accepts]

/-- No issue of two checks is lost, and no other is added. -/
theorem issuesOf_both (first : Checked α) (second : Checked β) :
    issuesOf (both first second) = issuesOf first ++ issuesOf second := by
  cases first <;> cases second <;> simp [both, issuesOf]

theorem accepts_checkField (object : Value) (field : String) (check : Value → Checked α) :
    Accepts (checkField object field check) ↔ Accepts (check (object.field field)) :=
  exists_congr fun _ => checkField_eq_ok_iff

theorem issuesOf_checkField (object : Value) (field : String) (check : Value → Checked α) :
    issuesOf (checkField object field check) =
      (issuesOf (check (object.field field))).map (·.within field) := by
  unfold checkField
  cases check (object.field field) <;> rfl

/-- Where something is wrong. -/
def pathsOf (checked : Checked α) : List (List String) := (issuesOf checked).map Issue.path

theorem pathsOf_map (checked : Checked α) (f : α → β) :
    pathsOf (checked.map f) = pathsOf checked := by
  rw [pathsOf, issuesOf_map, pathsOf]

theorem pathsOf_both (first : Checked α) (second : Checked β) :
    pathsOf (both first second) = pathsOf first ++ pathsOf second := by
  rw [pathsOf, issuesOf_both, List.map_append, pathsOf, pathsOf]

theorem mem_pathsOf_checkField (object : Value) (field : String) (check : Value → Checked α)
    (path : List String) :
    path ∈ pathsOf (checkField object field check) ↔
      ∃ inner ∈ pathsOf (check (object.field field)), path = field :: inner := by
  rw [pathsOf, issuesOf_checkField, pathsOf]
  simp [Issue.within, eq_comm]

/-- What has issues of its own has them because it is not accepted. -/
theorem mem_pathsOf_own {checked : Checked α}
    (own : ∀ issues, checked = .error issues → AreOwn issues) (path : List String) :
    path ∈ pathsOf checked ↔ path = [] ∧ ¬ Accepts checked := by
  cases checked with
  | ok a => simp [pathsOf, issuesOf, Accepts]
  | error issues =>
    simp only [pathsOf, issuesOf, (own issues rfl).mem_path_iff, not_accepts_error,
      not_false_eq_true, and_true]

/-- What is wrong with a field that has issues of its own only is at the field. -/
theorem mem_pathsOf_ownField {object : Value} {field : String} {check : Value → Checked α}
    (own : ∀ issues, check (object.field field) = .error issues → AreOwn issues)
    (path : List String) :
    path ∈ pathsOf (checkField object field check) ↔
      path = [field] ∧ ¬ Accepts (check (object.field field)) := by
  simp only [mem_pathsOf_checkField, mem_pathsOf_own own]
  constructor
  · rintro ⟨inner, ⟨rfl, refused⟩, rfl⟩
    exact ⟨rfl, refused⟩
  · rintro ⟨rfl, refused⟩
    exact ⟨[], ⟨rfl, refused⟩, rfl⟩

end

/-! ## Single fields -/

theorem accepts_checkVersion (v : Value) : Accepts (checkVersion v) ↔ Field.version.Admits v := by
  unfold checkVersion Field.Admits
  split
  · exact iff_of_true ⟨(), rfl⟩ (.inl rfl)
  · exact iff_of_true ⟨(), rfl⟩ (.inr rfl)
  · next missing one =>
    refine iff_of_false (not_accepts_error _) ?_
    rintro (rfl | rfl)
    · exact missing rfl
    · exact one rfl

theorem accepts_checkBaseUrl (v : Value) : Accepts (checkBaseUrl v) ↔ Field.baseUrl.Admits v := by
  by_cases missing : v = .undefined
  · subst missing
    exact iff_of_true ⟨_, rfl⟩ (.inl rfl)
  · rw [Accepts, exists_checkBaseUrl_eq_ok_iff missing]
    exact (or_iff_right missing).symm

theorem accepts_checkTimeout (v : Value) :
    Accepts (checkTimeout v) ↔ Field.timeoutMs.Admits v := by
  by_cases missing : v = .undefined
  · subst missing
    exact iff_of_true ⟨_, rfl⟩ (.inl rfl)
  · rw [Accepts, exists_checkTimeout_eq_ok_iff missing]
    exact (or_iff_right missing).symm

/-- A level that is given is checked by its name. -/
theorem checkLevel_eq (v : Value) (present : v ≠ .undefined) :
    checkLevel v = checkLevelName v := by
  unfold checkLevel
  split
  · exact absurd rfl present
  · rfl

theorem accepts_checkLevel (v : Value) : Accepts (checkLevel v) ↔ Field.logLevel.Admits v := by
  by_cases missing : v = .undefined
  · subst missing
    exact iff_of_true ⟨_, rfl⟩ (.inl rfl)
  · simp only [Accepts, checkLevel_eq v missing, checkLevelName_eq_ok_iff, Field.Admits, missing,
      false_or]
    constructor
    · rintro ⟨level, rfl⟩
      refine ⟨level.name, ?_, rfl⟩
      cases level <;> decide
    · rintro ⟨name, named, rfl⟩
      have level : ∀ name ∈ ["debug", "info", "warn", "error", "silent"],
          ∃ level : LogLevel, level.name = name := by
        simp only [List.forall_mem_cons]
        exact ⟨⟨.debug, rfl⟩, ⟨.info, rfl⟩, ⟨.warn, rfl⟩, ⟨.error, rfl⟩, ⟨.silent, rfl⟩,
          List.forall_mem_nil _⟩
      obtain ⟨level, rfl⟩ := level name named
      exact ⟨level, rfl⟩

theorem areOwn_refuse (fault : Fault) : AreOwn [⟨[], fault⟩] := by
  simp [AreOwn]

theorem areOwn_of_checkVersion {v : Value} {issues : List Issue}
    (h : checkVersion v = .error issues) : AreOwn issues := by
  unfold checkVersion refuse at h
  split at h <;> cases h
  exact areOwn_refuse _

theorem areOwn_of_checkLevel {v : Value} {issues : List Issue}
    (h : checkLevel v = .error issues) : AreOwn issues := by
  unfold checkLevel checkLevelName refuse at h
  split at h
  · cases h
  · split at h
    · split at h <;> cases h
      exact areOwn_refuse _
    · cases h
      exact areOwn_refuse _

/-! ## The client -/

theorem field_of_not_object {v : Value} (h : ¬ ∃ members, v = .object members) (key : String) :
    v.field key = .undefined := by
  unfold Value.field
  split
  · exact absurd ⟨_, rfl⟩ h
  · rfl

theorem accepts_checkClient (v : Value) : Accepts (checkClient v) ↔
    Field.client.Admits v ∧ Field.baseUrl.Admits (v.field "baseUrl") ∧
      Field.timeoutMs.Admits (v.field "timeoutMs") := by
  unfold checkClient
  split
  · next members =>
    rw [accepts_map, accepts_both, accepts_checkField, accepts_checkField, accepts_checkBaseUrl,
      accepts_checkTimeout]
    exact (and_iff_right ⟨members, rfl⟩).symm
  · next other =>
    refine iff_of_false (not_accepts_error _) ?_
    rintro ⟨⟨members, rfl⟩, -⟩
    exact other members rfl

/-- What is wrong with a client is at the client itself or at its fields. -/
theorem mem_pathsOf_checkClient (v : Value) (path : List String) :
    path ∈ pathsOf (checkClient v) ↔
      path = [] ∧ ¬ Field.client.Admits v ∨
        path = ["baseUrl"] ∧ ¬ Field.baseUrl.Admits (v.field "baseUrl") ∨
          path = ["timeoutMs"] ∧ ¬ Field.timeoutMs.Admits (v.field "timeoutMs") := by
  unfold checkClient
  split
  · next members =>
    have isObject : Field.client.Admits (.object members) := ⟨members, rfl⟩
    rw [pathsOf_map, pathsOf_both, List.mem_append,
      mem_pathsOf_ownField fun _ => areOwn_of_checkBaseUrl,
      mem_pathsOf_ownField fun _ => areOwn_of_checkTimeout, accepts_checkBaseUrl,
      accepts_checkTimeout]
    simp only [isObject, not_true_eq_false, and_false, false_or]
  · next other =>
    have noObject : ¬ ∃ members, v = .object members := fun ⟨members, same⟩ => other members same
    have noFields := field_of_not_object noObject
    simp [pathsOf, issuesOf, refuse, Field.Admits, noFields, noObject]

/-! ## Configurations -/

/-- What is accepted is what is acceptable. -/
theorem accepts_check (v : Value) : Accepts (check v) ↔ IsAcceptable v := by
  unfold check
  split
  · next members =>
    rw [accepts_map, accepts_both, accepts_both, accepts_checkField, accepts_checkField,
      accepts_checkField, accepts_checkVersion, accepts_checkClient, accepts_checkLevel]
    constructor
    · rintro ⟨version, ⟨client, baseUrl, timeoutMs⟩, logLevel⟩
      exact ⟨⟨members, rfl⟩, Field.forall_iff.2 ⟨version, client, baseUrl, timeoutMs, logLevel⟩⟩
    · rintro ⟨-, fields⟩
      obtain ⟨version, client, baseUrl, timeoutMs, logLevel⟩ := Field.forall_iff.1 fields
      exact ⟨version, ⟨client, baseUrl, timeoutMs⟩, logLevel⟩
  · next other =>
    refine iff_of_false (not_accepts_error _) ?_
    rintro ⟨⟨members, rfl⟩, -⟩
    exact other members rfl

/-- What is wrong with an object is at the fields that do not hold what they may. -/
theorem mem_pathsOf_check (members : Members) (path : List String) :
    path ∈ pathsOf (check (.object members)) ↔
      ∃ field : Field, field.Offends (.object members) ∧ path = field.path := by
  unfold check
  rw [pathsOf_map, pathsOf_both, pathsOf_both, List.mem_append, List.mem_append,
    mem_pathsOf_ownField fun _ => areOwn_of_checkVersion,
    mem_pathsOf_ownField fun _ => areOwn_of_checkLevel, accepts_checkVersion, accepts_checkLevel,
    mem_pathsOf_checkField, Field.exists_iff]
  simp only [mem_pathsOf_checkClient, Field.Offends, Field.value, Field.path, List.foldl_cons,
    List.foldl_nil, or_and_right, exists_or, and_assoc, exists_eq_left]
  simp only [or_assoc, and_comm]

/-! ## What comes out -/

theorem orDefault_of_ne {v : Value} (present : v ≠ .undefined) (default : Value) :
    v.orDefault default = v := by
  unfold Value.orDefault
  split
  · exact absurd rfl present
  · rfl

theorem orDefault_of_checkVersion {v : Value} (h : Accepts (checkVersion v)) :
    v.orDefault (.ofNat 1) = .ofNat 1 := by
  rcases (accepts_checkVersion v).1 h with rfl | rfl <;> rfl

theorem orDefault_of_checkBaseUrl {v : Value} {result : { text : String // isAddress text = true }}
    (h : checkBaseUrl v = .ok result) :
    v.orDefault (.string "http://localhost:8080") = .string result.1 := by
  by_cases missing : v = .undefined
  · subst missing
    cases h
    rfl
  · rw [orDefault_of_ne missing, (checkBaseUrl_eq_ok_iff missing).1 h]

theorem orDefault_of_checkTimeout {v : Value} {result : { n : Nat // isTimeout n = true }}
    (h : checkTimeout v = .ok result) : v.orDefault (.ofNat 30000) = .ofNat result.1 := by
  by_cases missing : v = .undefined
  · subst missing
    cases h
    rfl
  · rw [orDefault_of_ne missing, (checkTimeout_eq_ok_iff missing).1 h]

theorem orDefault_of_checkLevel {v : Value} {level : LogLevel} (h : checkLevel v = .ok level) :
    v.orDefault (.string "info") = .string level.name := by
  by_cases missing : v = .undefined
  · subst missing
    cases h
    rfl
  · rw [checkLevel_eq v missing] at h
    rw [orDefault_of_ne missing, checkLevelName_eq_ok_iff.1 h]

theorem map_eq_ok_iff {α β : Type} {checked : Checked α} {f : α → β} {b : β} :
    checked.map f = .ok b ↔ ∃ a, checked = .ok a ∧ f a = b := by
  cases checked <;> simp [Except.map]

theorem toValue_of_checkClient {v : Value} {client : ClientConfig}
    (h : checkClient v = .ok client) :
    client.toValue = .object
      [("baseUrl", (v.field "baseUrl").orDefault (.string "http://localhost:8080")),
        ("timeoutMs", (v.field "timeoutMs").orDefault (.ofNat 30000))] := by
  unfold checkClient at h
  split at h
  · obtain ⟨⟨baseUrl, timeout⟩, fields, rfl⟩ := map_eq_ok_iff.1 h
    obtain ⟨first, second⟩ := both_eq_ok_iff.1 fields
    rw [orDefault_of_checkBaseUrl (checkField_eq_ok_iff.1 first),
      orDefault_of_checkTimeout (checkField_eq_ok_iff.1 second), ClientConfig.toValue]
  · cases h

/-- What comes out of a check has the fields that were given, or their defaults, and no others. -/
theorem toValue_of_check {v : Value} {config : Config} (h : check v = .ok config) :
    config.toValue = completed v := by
  unfold check at h
  split at h
  · obtain ⟨⟨_, client, level⟩, fields, rfl⟩ := map_eq_ok_iff.1 h
    obtain ⟨first, rest⟩ := both_eq_ok_iff.1 fields
    obtain ⟨second, third⟩ := both_eq_ok_iff.1 rest
    rw [completed, orDefault_of_checkVersion ⟨_, checkField_eq_ok_iff.1 first⟩,
      ← toValue_of_checkClient (checkField_eq_ok_iff.1 second),
      orDefault_of_checkLevel (checkField_eq_ok_iff.1 third)]
    rfl
  · cases h

end Config

end KeyClient
