import KeyClient.Config.Draft

/-!
# What checks accept

A check accepts a field that is missing, or one value for each result; a configuration is accepted
as it is written (`Config.check_toValue`) and as a draft (`Config.Draft.check_ofConfig`).
-/

namespace KeyClient

theorem LogLevel.ofName?_eq_some_iff {name : String} {level : LogLevel} :
    ofName? name = some level ↔ name = level.name := by
  constructor
  · intro found
    have named := List.find?_some (p := fun level : LogLevel => level.name == name) found
    exact (beq_iff_eq.1 named).symm
  · rintro rfl
    exact ofName?_name level

namespace Config

/-! ## Fields -/

/-- A text is accepted as a server if it is the address that comes out. -/
theorem checkBaseUrl_eq_ok_iff {v : Value} (present : v ≠ .undefined)
    {result : { text : String // isAddress text = true }} :
    checkBaseUrl v = .ok result ↔ v = .string result.1 := by
  constructor
  · fun_cases checkBaseUrl v with
    | case1 => exact absurd rfl present
    | case2 text valid =>
      rintro ⟨⟩
      rfl
    | _ => nofun
  · rintro rfl
    exact dif_pos result.2

/-- A number is accepted as a time limit if it is the one that comes out. -/
theorem checkTimeout_eq_ok_iff {v : Value} (present : v ≠ .undefined)
    {result : { n : Nat // isTimeout n = true }} :
    checkTimeout v = .ok result ↔ v = .ofNat result.1 := by
  constructor
  · fun_cases checkTimeout v with
    | case1 => exact absurd rfl present
    | case3 i valid =>
      rintro ⟨⟩
      have positive : leastTimeout ≤ i.toNat := by
        simp only [isTimeout, Bool.and_eq_true, decide_eq_true_eq] at valid
        exact valid.1
      have same : (i.toNat : Int) = i := by
        unfold leastTimeout at positive
        omega
      rw [Value.ofNat, same]
    | _ =>
      intro accepted
      cases accepted
  · rintro rfl
    exact dif_pos result.2

theorem checkLevelName_eq_ok_iff {v : Value} {level : LogLevel} :
    checkLevelName v = .ok level ↔ v = .string level.name := by
  constructor
  · fun_cases checkLevelName v with
    | case1 name found known =>
      rintro ⟨⟩
      rw [LogLevel.ofName?_eq_some_iff.1 known]
    | _ => nofun
  · rintro rfl
    simp [checkLevelName]

/-! ## Objects -/

/-- Relocating the issues accepts nothing more and nothing less. -/
theorem mapError_eq_ok_iff {ε δ α : Type} {f : ε → δ} {checked : Except ε α} {a : α} :
    checked.mapError f = .ok a ↔ checked = .ok a := by
  cases checked with
  | ok value =>
    have unmapped : (Except.ok value).mapError f = .ok value := rfl
    rw [unmapped, Except.ok.injEq, Except.ok.injEq]
  | error => exact iff_of_false (by rintro ⟨⟩) (by rintro ⟨⟩)

theorem checkField_eq_ok_iff {α : Type} {object : Value} {field : String}
    {check : Value → Checked α} {a : α} :
    checkField object field check = .ok a ↔ check (object.field field) = .ok a :=
  mapError_eq_ok_iff

theorem both_eq_ok_iff {α β : Type} {first : Checked α} {second : Checked β} {pair : α × β} :
    both first second = .ok pair ↔ first = .ok pair.1 ∧ second = .ok pair.2 := by
  obtain ⟨a, b⟩ := pair
  cases first <;> cases second <;> simp [both]

/-- A client with both fields is accepted if they are those of the one that comes out. -/
theorem checkClient_eq_ok_iff {members : Members} {client : ClientConfig}
    (baseUrl : (Value.object members).field "baseUrl" ≠ .undefined)
    (timeoutMs : (Value.object members).field "timeoutMs" ≠ .undefined) :
    checkClient (.object members) = .ok client ↔
      (Value.object members).field "baseUrl" = .string client.baseUrl ∧
        (Value.object members).field "timeoutMs" = .ofNat client.timeoutMs := by
  unfold checkClient
  constructor
  · intro accepted
    cases checked : both (checkField (.object members) "baseUrl" checkBaseUrl)
      (checkField (.object members) "timeoutMs" checkTimeout) with
    | error issues =>
      rw [checked] at accepted
      cases accepted
    | ok pair =>
      rw [checked] at accepted
      cases accepted
      obtain ⟨first, second⟩ := both_eq_ok_iff.1 checked
      exact ⟨(checkBaseUrl_eq_ok_iff baseUrl).1 (checkField_eq_ok_iff.1 first),
        (checkTimeout_eq_ok_iff timeoutMs).1 (checkField_eq_ok_iff.1 second)⟩
  · rintro ⟨address, limit⟩
    have fields : both (checkField (.object members) "baseUrl" checkBaseUrl)
        (checkField (.object members) "timeoutMs" checkTimeout) =
          .ok (⟨client.baseUrl, client.isAddress⟩, ⟨client.timeoutMs, client.isTimeout⟩) :=
      both_eq_ok_iff.2 ⟨checkField_eq_ok_iff.2 ((checkBaseUrl_eq_ok_iff baseUrl).2 address),
        checkField_eq_ok_iff.2 ((checkTimeout_eq_ok_iff timeoutMs).2 limit)⟩
    rw [fields]
    rfl

/-! ## Configurations -/

/-- The value has the fields of a configuration. -/
structure IsFields (config : Config) (value : Value) : Prop where
  version : value.field "version" = .ofNat Config.version
  logLevel : value.field "logLevel" = .string config.logLevel.name
  client : ∃ members, value.field "client" = .object members
  baseUrl : (value.field "client").field "baseUrl" = .string config.client.baseUrl
  timeoutMs : (value.field "client").field "timeoutMs" = .ofNat config.client.timeoutMs

/-- An object with the fields of a configuration stands for the configuration. -/
theorem IsFields.check {config : Config} {members : Members}
    (h : IsFields config (.object members)) : check (.object members) = .ok config := by
  obtain ⟨inner, client⟩ := h.client
  have baseUrl := h.baseUrl
  have timeoutMs := h.timeoutMs
  rw [client] at baseUrl timeoutMs
  have checked : checkClient (.object inner) = .ok config.client :=
    (checkClient_eq_ok_iff (by simp [baseUrl]) (by simp [timeoutMs, Value.ofNat])).2
      ⟨baseUrl, timeoutMs⟩
  have version : checkVersion ((Value.object members).field "version") = .ok () := by
    rw [h.version]
    rfl
  have level : checkLevel ((Value.object members).field "logLevel") = .ok config.logLevel := by
    rw [h.logLevel]
    exact checkLevelName_eq_ok_iff.2 rfl
  have fields : both (checkField (.object members) "version" checkVersion)
      (both (checkField (.object members) "client" checkClient)
        (checkField (.object members) "logLevel" checkLevel)) =
          .ok ((), config.client, config.logLevel) :=
    both_eq_ok_iff.2 ⟨checkField_eq_ok_iff.2 version, both_eq_ok_iff.2
      ⟨checkField_eq_ok_iff.2 (client ▸ checked), checkField_eq_ok_iff.2 level⟩⟩
  rw [Config.check, fields]
  rfl

/-- A configuration is one as it is written. -/
theorem check_toValue (config : Config) : check config.toValue = .ok config :=
  IsFields.check ⟨rfl, rfl, ⟨_, rfl⟩, rfl, rfl⟩

/-- A configuration is one as a draft. -/
theorem Draft.check_ofConfig (config : Config) : (Draft.ofConfig config).check = .ok config :=
  IsFields.check ⟨rfl, rfl, ⟨_, rfl⟩, rfl, rfl⟩

end Config

end KeyClient
