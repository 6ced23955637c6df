import KeyClient.Proofs.Config.Accepted
import KeyClient.Proofs.Number.Numeral
import KeyClient.Proofs.Text.Split

/-!
# What is said of a configuration

The message about a file has a line for each issue, and a line begins with the field it is about
(`Field.Heads`), so no line is about two fields.  The only text of the file that gets into the
message is a level that is none: a line break in it goes on with the line of the level on a new line
of the text, and without one the lines of the text are the lines of the issues
(`isOneLine_message`).  `isJudged_check` puts together what a check accepts, what comes out of it
and what is said of a file.
-/

namespace KeyClient.Config

open KeyClient.Files

/-! ## Lines -/

/-- The text has no line break. -/
def IsOneLine (text : String) : Prop := '\n' ∉ text.toList

instance (text : String) : Decidable (IsOneLine text) := inferInstanceAs (Decidable (_ ∉ _))

theorem isOneLine_append {first second : String} :
    IsOneLine (first ++ second) ↔ IsOneLine first ∧ IsOneLine second := by
  simp [IsOneLine]

/-- Texts without line breaks are the lines of the text they make together. -/
theorem split_intercalate {lines : List String} (some : lines ≠ [])
    (clear : ∀ line ∈ lines, IsOneLine line) :
    Text.split (· == '\n') ("\n".intercalate lines).toList = lines.map String.toList := by
  have joined : ("\n".intercalate lines).toList = Text.join ['\n'] (lines.map String.toList) := by
    rw [String.toList_intercalate, Text.join_eq_intercalate]
    rfl
  rw [joined, Text.split_join (by simpa using some)]
  intro part mem c inside
  obtain ⟨line, among, rfl⟩ := List.mem_map.1 mem
  refine beq_eq_false_iff_ne.2 ?_
  rintro rfl
  exact clear line among inside

namespace Field

/-- How a line about a field begins. -/
def label (field : Field) : String := "  - " ++ ".".intercalate field.path

/-- The line is one about the field. -/
def Heads (field : Field) (line : String) : Prop := ∃ text, line = field.label ++ ": " ++ text

theorem label_injective : Function.Injective label := by
  intro field other same
  cases field <;> cases other <;> first | rfl | exact absurd same (by decide)

theorem not_mem_label (field : Field) : ':' ∉ field.label.toList := by
  cases field <;> decide

theorem cut_of_heads {field : Field} {line : String} (h : field.Heads line) :
    (Text.cut (· == ':') line.toList).1 = field.label.toList := by
  obtain ⟨text, rfl⟩ := h
  have apart : (field.label ++ ": " ++ text).toList =
      field.label.toList ++ ':' :: ' ' :: text.toList := by simp
  have clear : ∀ c ∈ field.label.toList, (c == ':') = false := by
    intro c mem
    refine beq_eq_false_iff_ne.2 ?_
    rintro rfl
    exact field.not_mem_label mem
  rw [apart, Text.cut_append_cons clear (beq_self_eq_true _)]

/-- A line is about one field only. -/
theorem Heads.unique {field other : Field} {line : String} (h : field.Heads line)
    (h' : other.Heads line) : field = other := by
  have same : field.label.toList = other.label.toList := by rw [← cut_of_heads h, cut_of_heads h']
  exact label_injective (String.toList_inj.1 same)

theorem isOneLine_label (field : Field) : IsOneLine field.label := by
  unfold IsOneLine
  cases field <;> decide

end Field

/-! ## Faults on one line -/

section

variable {α β : Type} {p : Fault → Prop}

/-- Every fault that a check finds is such. -/
def EachFault (p : Fault → Prop) (checked : Checked α) : Prop :=
  ∀ issue ∈ issuesOf checked, p issue.fault

theorem eachFault_map (checked : Checked α) (f : α → β) :
    EachFault p (checked.map f) ↔ EachFault p checked := by
  rw [EachFault, issuesOf_map, EachFault]

theorem eachFault_both (first : Checked α) (second : Checked β) :
    EachFault p (both first second) ↔ EachFault p first ∧ EachFault p second := by
  rw [EachFault, issuesOf_both, List.forall_mem_append, EachFault, EachFault]

theorem eachFault_checkField (object : Value) (field : String) (check : Value → Checked α) :
    EachFault p (checkField object field check) ↔ EachFault p (check (object.field field)) := by
  rw [EachFault, issuesOf_checkField, List.forall_mem_map, EachFault]
  rfl

theorem eachFault_ok (a : α) : EachFault p (.ok a : Checked α) := List.forall_mem_nil _

theorem eachFault_refuse {fault : Fault} (h : p fault) : EachFault p (refuse fault : Checked α) :=
  List.forall_mem_singleton.2 h

theorem eachFault_error {faults : List Fault} :
    EachFault p (.error (faults.map fun fault => ⟨[], fault⟩) : Checked α) ↔
      ∀ fault ∈ faults, p fault :=
  List.forall_mem_map

end

/-- A level that a fault quotes is such. -/
def Quotes (p : String → Prop) (fault : Fault) : Prop := ∀ text, fault = .unknownLevel text → p text

section

variable {p : String → Prop}

theorem quotes_timeoutFaults (n : Number) : ∀ fault ∈ timeoutFaults n, Quotes p fault := by
  intro fault mem text quoted
  subst quoted
  unfold timeoutFaults at mem
  rcases List.mem_append.1 mem with mem | mem
  · rcases List.mem_append.1 mem with mem | mem <;> split at mem <;> simp at mem
  · split at mem <;> simp at mem

theorem eachFault_checkVersion (v : Value) : EachFault (Quotes p) (checkVersion v) := by
  unfold checkVersion
  split
  · exact eachFault_ok ()
  · exact eachFault_ok ()
  · exact eachFault_refuse (by rintro _ ⟨⟩)

theorem eachFault_checkBaseUrl (v : Value) : EachFault (Quotes p) (checkBaseUrl v) := by
  fun_cases checkBaseUrl v with
  | case1 | case2 => exact eachFault_ok _
  | case3 | case4 => exact eachFault_refuse (by rintro _ ⟨⟩)

theorem eachFault_checkTimeout (v : Value) : EachFault (Quotes p) (checkTimeout v) := by
  fun_cases checkTimeout v with
  | case1 | case3 => exact eachFault_ok _
  | case2 | case6 => exact eachFault_refuse (by rintro _ ⟨⟩)
  | case4 | case5 => exact eachFault_error.2 (quotes_timeoutFaults _)

theorem eachFault_checkClient (v : Value) : EachFault (Quotes p) (checkClient v) := by
  unfold checkClient
  split
  · rw [eachFault_map, eachFault_both, eachFault_checkField, eachFault_checkField]
    exact ⟨eachFault_checkBaseUrl _, eachFault_checkTimeout _⟩
  · exact eachFault_refuse (by rintro _ ⟨⟩)

theorem eachFault_checkLevel {v : Value} (h : ∀ text, v = .string text → p text) :
    EachFault (Quotes p) (checkLevel v) := by
  by_cases missing : v = .undefined
  · subst missing
    exact eachFault_ok LogLevel.info
  · rw [checkLevel_eq v missing]
    fun_cases checkLevelName v with
    | case1 => exact eachFault_ok _
    | case2 name =>
      refine eachFault_refuse ?_
      rintro text ⟨⟩
      exact h name rfl
    | case3 => exact eachFault_refuse (by rintro _ ⟨⟩)

/-- Nothing of a value but a text that is given as the level is quoted. -/
theorem eachFault_check {v : Value} (h : ∀ text, v.field "logLevel" = .string text → p text) :
    EachFault (Quotes p) (check v) := by
  unfold check
  split
  · rw [eachFault_map, eachFault_both, eachFault_both, eachFault_checkField, eachFault_checkField,
      eachFault_checkField]
    exact ⟨eachFault_checkVersion _, eachFault_checkClient _, eachFault_checkLevel h⟩
  · exact eachFault_refuse (by rintro _ ⟨⟩)

end

theorem isOneLine_toString (n : Nat) : IsOneLine (toString n) := by
  have digits : (toString n).toList = Nat.toDigits 10 n := by simp
  rw [IsOneLine, digits]
  intro mem
  exact absurd (isDigit_of_mem_toDigits mem) (by decide)

theorem isOneLine_name (expected : Expected) : IsOneLine expected.name := by
  cases expected <;> decide

theorem isOneLine_kind (v : Value) : IsOneLine v.kind := by
  fun_cases Value.kind v <;> decide

/-- A message has no line break but one that is quoted. -/
theorem isOneLine_message {fault : Fault} (h : Quotes IsOneLine fault) :
    IsOneLine fault.message := by
  fun_cases Fault.message fault with
  | case1 | case3 | case6 | case7 => decide
  | case2 expected received =>
    simp only [isOneLine_append]
    exact ⟨⟨⟨by decide, isOneLine_name expected⟩, by decide⟩, isOneLine_kind received⟩
  | case4 n | case5 n => exact isOneLine_append.2 ⟨by decide, isOneLine_toString n⟩
  | case8 text =>
    simp only [isOneLine_append]
    exact ⟨⟨⟨⟨by decide, isOneLine_name .level⟩, by decide⟩, h text rfl⟩, by decide⟩

/-! ## Reports -/

/-- The message says of a value what is wrong with its fields: below the heading it has a line for
each issue, which is about the field where the issue is, and a field has one exactly if it does not
hold what it may.  Unless a level with a line break is quoted, these are the lines of the text as it
is split. -/
structure IsReport (v : Value) (issues : List Issue) (message : String) : Prop where
  joined : message = "\n".intercalate ("Invalid configuration file:" :: issues.map Issue.line)
  headed : ∀ issue ∈ issues, ∃ field : Field, issue.path = field.path ∧ field.Heads issue.line
  offending : ∀ field : Field, (∃ issue ∈ issues, field.Heads issue.line) ↔ field.Offends v
  apart : (∀ text, v.field "logLevel" = .string text → IsOneLine text) →
    Text.split (· == '\n') message.toList =
      ("Invalid configuration file:" :: issues.map Issue.line).map String.toList

theorem line_eq {issue : Issue} {field : Field} (located : issue.path = field.path) :
    issue.line = field.label ++ ": " ++ issue.message := by
  rw [Issue.line, located, Field.label]

/-- The issues of an object are those of the fields that do not hold what they may. -/
theorem mem_path_iff {members : Members} {issues : List Issue}
    (refused : check (.object members) = .error issues) (path : List String) :
    path ∈ issues.map Issue.path ↔
      ∃ field : Field, field.Offends (.object members) ∧ path = field.path := by
  rw [← mem_pathsOf_check, refused]
  rfl

theorem ne_nil_of_refused {members : Members} {issues : List Issue}
    (refused : check (.object members) = .error issues) : issues ≠ [] := by
  rintro rfl
  have nowhere : ¬ ∃ field : Field, field.Offends (.object members) := by
    rintro ⟨field, offends⟩
    exact absurd ((mem_path_iff refused field.path).2 ⟨field, offends, rfl⟩) List.not_mem_nil
  have acceptable : IsAcceptable (.object members) :=
    ⟨⟨members, rfl⟩, fun field => not_not.1 fun offends => nowhere ⟨field, offends⟩⟩
  obtain ⟨config, accepted⟩ := (accepts_check _).2 acceptable
  rw [refused] at accepted
  cases accepted

theorem isReport_invalidFile {members : Members} {issues : List Issue} (file : Place)
    (refused : check (.object members) = .error issues) :
    IsReport (.object members) issues (ConfigError.invalidFile file issues).toError.message := by
  have lines : issues.map Issue.line ≠ [] := by simpa using ne_nil_of_refused refused
  have located : ∀ issue ∈ issues, ∃ field : Field, field.Offends (.object members) ∧
      issue.path = field.path :=
    fun issue mem => (mem_path_iff refused _).1 (List.mem_map_of_mem mem)
  have joined : (ConfigError.invalidFile file issues).toError.message =
      "\n".intercalate ("Invalid configuration file:" :: issues.map Issue.line) := by
    rw [String.intercalate_cons_of_ne_nil lines]
    rfl
  refine ⟨joined, ?_, fun field => ⟨?_, ?_⟩, fun clear => ?_⟩
  · intro issue among
    obtain ⟨field, -, here⟩ := located issue among
    exact ⟨field, here, issue.message, line_eq here⟩
  · -- A line begins with one field only, so the issue it was made of is about that field.
    rintro ⟨issue, among, heads⟩
    obtain ⟨other, offends, here⟩ := located issue among
    have same : field = other := heads.unique ⟨issue.message, line_eq here⟩
    exact same ▸ offends
  · intro offends
    obtain ⟨issue, among, here⟩ :=
      List.mem_map.1 ((mem_path_iff refused field.path).2 ⟨field, offends, rfl⟩)
    exact ⟨issue, among, issue.message, line_eq here⟩
  · -- Paths have no line breaks, and of the messages only one that quotes a level can have any.
    rw [joined]
    refine split_intercalate (List.cons_ne_nil _ _) (List.forall_mem_cons.2 ⟨by decide, ?_⟩)
    intro line mem
    obtain ⟨issue, among, rfl⟩ := List.mem_map.1 mem
    obtain ⟨field, -, here⟩ := located issue among
    have quotes : EachFault (Quotes IsOneLine) (check (.object members)) := eachFault_check clear
    rw [refused] at quotes
    rw [line_eq here, isOneLine_append, isOneLine_append]
    exact ⟨⟨field.isOneLine_label, by decide⟩, isOneLine_message (quotes issue among)⟩

/-! ## Judgements -/

/-- A check accepts what is acceptable; what comes out has the fields that were given, or their
defaults, and is accepted as it is; what is wrong with an object is at the fields that do not hold
what they may, and what is said of a file with it is so too. -/
structure IsJudged (v : Value) : Prop where
  accepted : (∃ config, check v = .ok config) ↔ IsAcceptable v
  result : ∀ config, check v = .ok config →
    config.toValue = completed v ∧ check config.toValue = .ok config
  located : ∀ members issues, v = .object members → check v = .error issues →
    ∀ path, path ∈ issues.map Issue.path ↔ ∃ field : Field, field.Offends v ∧ path = field.path
  reported : ∀ (project : Project) tree members, v = .object members → ¬ IsAcceptable v →
    readDocument tree project.file = .ok v →
      ∃ error issues, load project tree = .error error ∧ check v = .error issues ∧
        IsReport v issues error.toError.message

/-- **Every value is judged by its fields**: what is accepted, what comes out, and where and how what
is wrong is reported. -/
theorem isJudged_check (v : Value) : IsJudged v where
  accepted := accepts_check v
  result config accepted := ⟨toValue_of_check accepted, check_toValue config⟩
  located := by
    rintro members issues rfl refused
    exact mem_path_iff refused
  reported := by
    rintro project tree members rfl unacceptable read
    cases checked : check (.object members) with
    | ok config => exact absurd ((accepts_check _).1 ⟨config, checked⟩) unacceptable
    | error issues =>
      refine ⟨.invalidFile project.file issues, issues, ?_, rfl,
        isReport_invalidFile project.file checked⟩
      rw [load_of_readDocument read, checked]
      rfl

/-- A file with a version and a time limit that cannot be, and with a member that is none: both
fields are reported, and nothing else. -/
theorem isJudged_check_two_fields :
    let v : Value := .object [("version", .ofNat 2),
      ("client", .object [("timeoutMs", .ofNat 0), ("retries", .ofNat 3)])]
    let project : Project := ⟨[], "/app"⟩
    let tree := (writeDocument .empty project.file v).tree
    ∃ error issues, load project tree = .error error ∧ check v = .error issues ∧
      IsReport v issues error.toError.message ∧
      ∀ field : Field, (∃ issue ∈ issues, field.Heads issue.line) ↔
        field = .version ∨ field = .timeoutMs := by
  intro v project tree
  have exact : v.IsExact := by
    simp [v, Value.IsExact, Value.HasExact, Value.ofNat, Number.IsExact]
    decide
  have ordered : v.IsOrdered := by
    have outer : Members.AreOrdered ["version", "client"] := by decide
    have inner : Members.AreOrdered ["timeoutMs", "retries"] := by decide
    simp [v, Value.IsOrdered, Value.HasOrdered, Value.ofNat, outer, inner]
  have file : project.file = ["config.json", ".key-cli", "app"] := by decide +kernel
  have read : readDocument tree project.file = .ok v := by
    have written : (writeDocument .empty project.file v).result = .ok () := by
      rw [file]
      rfl
    exact (isDocument_of_writeDocument written).read exact ordered (by simp [v])
  have offends : ∀ field : Field, field.Offends v ↔ field = .version ∨ field = .timeoutMs := by
    intro field
    cases field with
    | version => exact iff_of_true (by rintro (⟨⟨⟩⟩ | ⟨⟨⟩⟩)) (.inl rfl)
    | timeoutMs =>
      refine iff_of_true ?_ (.inr rfl)
      rintro (⟨⟨⟩⟩ | ⟨n, same, least, -⟩)
      cases same
      omega
    | client => exact iff_of_false (not_not.2 ⟨_, rfl⟩) (by decide)
    | baseUrl | logLevel => exact iff_of_false (not_not.2 (.inl rfl)) (by decide)
  have unacceptable : ¬ IsAcceptable v :=
    fun acceptable => (offends .version).2 (.inl rfl) (acceptable.fields .version)
  obtain ⟨error, issues, loaded, checked, report⟩ :=
    (isJudged_check v).reported project tree _ rfl unacceptable read
  exact ⟨error, issues, loaded, checked, report,
    fun field => (report.offending field).trans (offends field)⟩

end KeyClient.Config
