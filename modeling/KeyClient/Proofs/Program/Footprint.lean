import KeyClient.Http.Offline
import KeyClient.Program.Series
import KeyClient.Proofs.Client.Ending
import KeyClient.Proofs.Program.Setup

/-!
# What invocations leave behind

An invocation keeps to its project: it changes the file of the configuration at most, and makes
directories on the way to it (`Effects.KeepsTo`).  One that fails leaves no more behind than a request
whose reply cannot be quoted (`Program.untouched_of_failure`).  After any invocations the configuration is as it was, or a valid
one has been written, and clients are made for valid configurations only (`Program.files_after`).
-/

namespace KeyClient

open KeyClient.CommandLine KeyClient.Config KeyClient.Files

/-- Whether the event reaches the server, or is the report on what came of it. -/
def Event.isOutward : Event → Bool
  | .get .. | .send _ | .report _ => true
  | _ => false

/-- Nothing is sent or reported by an event that does not reach outward. -/
theorem Event.of_inward {event : Event} (h : event.isOutward = false) :
    event.request? = none ∧ event.report? = none := by
  cases event <;> first | exact ⟨rfl, rfl⟩ | cases h

/-- A failure comes before anything reaches the server.  The one exception is that a request was
sent, and the reply to it raises what cannot be put in words; then nothing is reported. -/
def Dispatch.FailsBefore (transport : Http.Transport) (events : List Event) (failure : Failure) :
    Prop :=
  (∀ event ∈ events, event.isOutward = false) ∨
    reported events = [] ∧ ∃ request, requested events = [request] ∧ ∃ reason,
      (transport request).Raises reason ∧ reason.Wordless failure

theorem Dispatch.of_inward {events : List Event} (h : ∀ event ∈ events, event.isOutward = false) :
    requested events = [] ∧ reported events = [] :=
  ⟨List.filterMap_eq_nil_iff.2 fun event mem => (Event.of_inward (h event mem)).1,
    List.filterMap_eq_nil_iff.2 fun event mem => (Event.of_inward (h event mem)).2⟩

theorem Dispatch.FailsBefore.append {transport : Http.Transport} {events : List Event}
    {failure : Failure} (h : FailsBefore transport events failure) {before : List Event}
    (inward : ∀ event ∈ before, event.isOutward = false) :
    FailsBefore transport (before ++ events) failure := by
  rcases h with later | ⟨silent, request, sent, raises⟩
  · exact .inl (List.forall_mem_append.2 ⟨inward, later⟩)
  · obtain ⟨unsent, unreported⟩ := of_inward inward
    refine .inr ⟨?_, request, ?_, raises⟩
    · rw [reported_append, unreported, silent, List.append_nil]
    · rw [requested_append, unsent, sent, List.nil_append]

/-- A run that fails has not reached the server, unless it is to quote what has no text; and no run
makes a client. -/
theorem Dispatch.run_confined (client : Client) (hook : Hook) (transport : Http.Transport)
    (m : Matches) :
    (∀ failure, (run client hook transport m).2 = .error failure →
      FailsBefore transport (run client hook transport m).1 failure) ∧
      ∀ config, .client config ∉ (run client hook transport m).1 := by
  cases flags : ofFlags m with
  | error error =>
    rw [run, start_of_ofFlags_error flags]
    simp [Run.finish, FailsBefore]
  | ok request =>
    have asked : ∀ event ∈ [.log (stageEntry "flags applied" request)] ++ (consult hook m request).1,
        event.isOutward = false := by
      simp [consult, Event.isOutward]
    cases verdict : verdictFailure? (hook m request).verdict with
    | some failure =>
      rw [run, start_of_failure flags verdict]
      exact ⟨fun _ _ => .inl asked, by simp [Run.finish, consult]⟩
    | none =>
      rw [run, start_of_accept flags verdict, Run.finish]
      dsimp only
      constructor
      · intro failure failed
        have unknown := conclude_eq_error_iff.1 failed
        obtain ⟨sent, only, raises⟩ := Client.requested_send_of_error unknown
        rw [unknown, conclude, List.append_nil]
        exact .append (.inr ⟨Client.reported_send _ _, sent, only, raises⟩) asked
      · intro config
        have unmade : ∀ outcome, .client config ∉ (conclude outcome).1 := by
          intro outcome mem
          obtain ⟨text, report⟩ := eq_report_of_mem_conclude mem
          cases report
        simp [unmade, consult, send, Dispatch.get]

/-! ## Commands -/

/-- The effects keep to a project on the files that were found: a failure comes before anything
reaches the server, as far as it can, and changes no files, unless names are too long; at most the
configuration is stored; and clients are made for configurations that count. -/
structure Effects.KeepsTo (project : Project) (found : Tree) (transport : Http.Transport)
    (effects : Effects) : Prop where
  failure : ∀ failure, effects.result = .error failure →
    Dispatch.FailsBefore transport effects.events failure ∧
      (project.file.Fits → effects.files = found)
  files : found.IsKept effects.files project.directory ∨
    ∃ config, Stored project found effects.files config
  clients : ∀ config, .client config ∈ effects.events →
    ∃ overrides, resolve project found overrides = .ok config

namespace Effects

variable {project : Project} {found : Tree} {transport : Http.Transport}

theorem not_isOutward_of_isShown {event : Event} (h : event.IsShown) : event.isOutward = false := by
  cases event <;> first | rfl | cases h

/-- Events that are shown keep to the project. -/
theorem keepsTo_of_isShown {effects : Effects} (shown : ∀ event ∈ effects.events, event.IsShown)
    (failure : ∀ failure, effects.result = .error failure → project.file.Fits →
      effects.files = found)
    (files : found.IsKept effects.files project.directory ∨
      ∃ config, Stored project found effects.files config) :
    effects.KeepsTo project found transport where
  failure error failed :=
    ⟨.inl fun event mem => not_isOutward_of_isShown (shown event mem), failure error failed⟩
  files := files
  clients _ mem := (shown _ mem).elim

theorem keepsTo_done {events : List Event} (shown : ∀ event ∈ events, event.IsShown) :
    (done found events).KeepsTo project found transport :=
  keepsTo_of_isShown shown (fun _ _ _ => rfl) (.inl (.refl found _))

theorem keepsTo_failed {events : List Event} (shown : ∀ event ∈ events, event.IsShown)
    (failure : Failure) : (failed found events failure).KeepsTo project found transport :=
  keepsTo_of_isShown shown (fun _ _ _ => rfl) (.inl (.refl found _))

theorem KeepsTo.after {effects : Effects} (h : effects.KeepsTo project found transport)
    {events : List Event} (shown : ∀ event ∈ events, event.IsShown) :
    (effects.after events).KeepsTo project found transport where
  failure error failed := by
    obtain ⟨before, same⟩ := h.failure error failed
    exact ⟨before.append fun event mem => not_isOutward_of_isShown (shown event mem), same⟩
  files := h.files
  clients client mem := by
    rcases List.mem_append.1 mem with mem | mem
    · exact (shown _ mem).elim
    · exact h.clients client mem

end Effects

theorem isShown_log (entries : List Log.Entry) : ∀ event ∈ entries.map Event.log, event.IsShown :=
  List.forall_mem_map.2 fun _ _ => trivial

theorem Setup.keepsTo_run (project : Project) (found : Tree) (settings : Settings)
    (answers : Answers) (transport : Http.Transport) :
    (run project found settings answers).KeepsTo project found transport := by
  rcases run_cases project found settings answers with
    ⟨left, config, -, -, events, shown, done⟩ | ⟨-, events, logged, done⟩
  · rw [done]
    refine Effects.KeepsTo.after ?_ shown
    rcases save_cases project found config with
      ⟨later, events, stored, saved, -, shown⟩ | ⟨later, events, failure, failed, shown, kept, same⟩
    · rw [saved]
      exact Effects.keepsTo_of_isShown shown nofun (.inr ⟨config, stored⟩)
    · rw [failed]
      exact Effects.keepsTo_of_isShown shown (fun _ _ fits => same fits) (.inl kept)
  · rw [done]
    refine Effects.keepsTo_done fun event mem => ?_
    obtain ⟨entry, rfl⟩ := logged event mem
    trivial

theorem Show.keepsTo_run (project : Project) (found : Tree) (pathOnly : Bool)
    (overrides : Overrides) (transport : Http.Transport) :
    (run project found pathOnly overrides).KeepsTo project found transport := by
  unfold run
  split
  · exact Effects.keepsTo_done (by simp [Event.line, Event.IsShown])
  · refine Effects.KeepsTo.after ?_ (isShown_log _)
    split
    · exact Effects.keepsTo_failed (List.forall_mem_nil _) _
    · exact Effects.keepsTo_done (by simp [shown, Event.line, Event.IsShown])

theorem Show.files_run (project : Project) (files : Tree) (pathOnly : Bool)
    (overrides : Overrides) : (run project files pathOnly overrides).files = files := by
  unfold run
  split
  · rfl
  · cases resolve project files overrides <;> rfl

namespace Program

variable {program : Program}

theorem files_send (operation : Operation) (files : Tree) (options : SuiteState)
    (command : CommandState) (m : Matches) (transport : Http.Transport) :
    (program.send operation files options command m transport).files = files := by
  unfold send
  cases resolve program.project files (overrides options command) <;> rfl

theorem keepsTo_send (operation : Operation) (found : Tree) (options : SuiteState)
    (command : CommandState) (m : Matches) (transport : Http.Transport) :
    (program.send operation found options command m transport).KeepsTo program.project found
      transport := by
  unfold send
  refine Effects.KeepsTo.after ?_ (isShown_log _)
  split
  · exact Effects.keepsTo_failed (List.forall_mem_nil _) _
  · next config resolved =>
    obtain ⟨before, clientless⟩ :=
      Dispatch.run_confined (clientOf config.client) program.hook transport m
    refine ⟨fun failure failed => ⟨?_, fun _ => rfl⟩, .inl (.refl found _), fun made mem => ?_⟩
    · let front : List Event := [.setThreshold (thresholdOf options command config),
        .log (dispatchEntry operation config), .client config]
      have silent : ∀ event ∈ front, event.isOutward = false := by simp [front, Event.isOutward]
      exact (before failure failed).append silent
    · obtain rfl : made = config := by simpa [clientless] using mem
      exact ⟨_, resolved⟩

/-- Carrying out a command keeps to the project, and only the setup changes the files. -/
theorem keepsTo_carryOut (task : Task) (command : Command) (found : Tree)
    (options : SuiteState) (surroundings : Surroundings) :
    let effects := (program.carryOut task command found options surroundings).1
    effects.KeepsTo program.project found surroundings.transport ∧
      (effects.files = found ∨ task = .setUp) := by
  cases task with
  | setUp => exact ⟨Setup.keepsTo_run _ _ _ _ _, .inr rfl⟩
  | «show» => exact ⟨Show.keepsTo_run _ _ _ _ _, .inl (Show.files_run _ _ _ _)⟩
  | send operation => exact ⟨keepsTo_send _ _ _ _ _ _, .inl (files_send _ _ _ _ _ _)⟩

theorem isShown_haltEvent (halt : Halt) : (haltEvent halt).IsShown := by
  unfold haltEvent
  split <;> trivial

/-- The effects of an invocation. -/
def effectsOf (invocation : Invocation) : Effects :=
  ⟨invocation.events, invocation.state.files, invocation.result⟩

/-- One invocation keeps to the project, and changes the files only if it sets the project up. -/
theorem keepsTo_invoke (program : Program) (state : ProgramState) (args : List String)
    (surroundings : Surroundings) :
    let invocation := program.invoke state args surroundings
    (effectsOf invocation).KeepsTo program.project state.files surroundings.transport ∧
      (invocation.state.files = state.files ∨
        ∃ command, (program.suite.parse state.options args).2 = .ok command ∧
          command.name = Task.setUp.name) := by
  unfold invoke
  rcases program.suite.parse state.options args with ⟨options, halt | command⟩
  · have shown := List.forall_mem_singleton.2 (isShown_haltEvent halt)
    exact ⟨Effects.keepsTo_failed shown _, .inl rfl⟩
  · dsimp only
    cases known : Task.ofName? command.name with
    | none => exact ⟨Effects.keepsTo_failed (List.forall_mem_nil _) _, .inl rfl⟩
    | some task =>
      have named : (task.name == command.name) = true :=
        List.find?_some (p := fun task : Task => task.name == command.name) known
      obtain ⟨keeps, unchanged⟩ :=
        program.keepsTo_carryOut task command state.files options surroundings
      refine ⟨keeps, unchanged.imp_right ?_⟩
      rintro rfl
      exact ⟨command, rfl, (beq_iff_eq.1 named).symm⟩

/-- **What failures leave behind.**  An invocation that fails has reported nothing and has left the
files as they were, unless some name of the file's place or its whole path is too long.  It has asked
the server for nothing and has sent nothing, except where the failure is that of quoting what the
reply to its one request raises. -/
theorem untouched_of_failure (program : Program) (fits : program.project.file.Fits)
    (state : ProgramState) (args : List String) (surroundings : Surroundings) {failure : Failure}
    (failed : (program.invoke state args surroundings).result = .error failure) :
    let invocation := program.invoke state args surroundings
    Dispatch.reported invocation.events = [] ∧ invocation.state.files = state.files ∧
      ((∀ path query, .get path query ∉ invocation.events) ∧
          Dispatch.requested invocation.events = [] ∨
        ∃ request, Dispatch.requested invocation.events = [request] ∧ ∃ reason,
          (surroundings.transport request).Raises reason ∧ reason.Wordless failure) := by
  intro invocation
  obtain ⟨before, same⟩ := (keepsTo_invoke program state args surroundings).1.failure failure failed
  rcases before with inward | ⟨silent, sent⟩
  · obtain ⟨unsent, unreported⟩ := Dispatch.of_inward inward
    refine ⟨unreported, same fits, .inl ⟨fun path query mem => ?_, unsent⟩⟩
    cases inward _ mem
  · exact ⟨silent, same fits, .inr sent⟩

/-- The request for a key is sent, and what the network raises in place of a reply has no text. -/
theorem untouched_of_failure_textless :
    let program := create ⟨[], "/app"⟩ Hook.acceptAll
    let transport : Http.Transport := fun _ =>
      .rejected (.value (.object [("toString", .string "x")]))
    let invocation := program.invoke (program.fresh .empty) ["key-get"] ⟨⟨[], []⟩, transport⟩
    program.project.file.Fits ∧
      invocation.result =
        .error (.other "TypeError" "Cannot convert object to primitive value") ∧
      Dispatch.reported invocation.events = [] ∧ invocation.state.files = .empty ∧
      Dispatch.requested invocation.events =
        [⟨"http://localhost:8080/key", Client.requestHeaders, 30000⟩] := by
  intro program transport invocation
  have fits : program.project.file.Fits := ⟨by decide +kernel, by decide +kernel⟩
  have failed : invocation.result =
      .error (.other "TypeError" "Cannot convert object to primitive value") := by
    with_unfolding_all rfl
  have sent : Dispatch.requested invocation.events =
      [⟨"http://localhost:8080/key", Client.requestHeaders, 30000⟩] := by decide +kernel
  obtain ⟨silent, same, -⟩ := untouched_of_failure program fits _ _ _ failed
  exact ⟨fits, failed, silent, same, sent⟩

/-! ## After any invocations -/

/-- The octets are those of a valid configuration: JSON with two blanks of indentation and a line
end, of the version, an address, a time limit in range and one of the levels. -/
def IsValidDocument (octets : List UInt8) : Prop :=
  ∃ (baseUrl : String) (timeoutMs : Nat) (level : LogLevel),
    (Url.parse? baseUrl.toList).isSome ∧ 1 ≤ timeoutMs ∧ timeoutMs ≤ 600000 ∧
      octets = Text.Utf8.encode ((Json.write (some 2) (.object [("version", .ofNat 1),
        ("client", .object [("baseUrl", .string baseUrl), ("timeoutMs", .ofNat timeoutMs)]),
        ("logLevel", .string level.name)])).toList ++ ['\n'])

/-- The address and the time limit of a client are valid. -/
theorem isValid_client (client : ClientConfig) :
    (Url.parse? client.baseUrl.toList).isSome ∧ 1 ≤ client.timeoutMs ∧
      client.timeoutMs ≤ 600000 := by
  have limit := client.isTimeout
  simp only [isTimeout, Bool.and_eq_true, decide_eq_true_eq] at limit
  exact ⟨client.isAddress, limit⟩

theorem isValidDocument_documentOctets (config : Config) :
    IsValidDocument (documentOctets config.toValue) := by
  obtain ⟨address, least, greatest⟩ := isValid_client config.client
  exact ⟨config.client.baseUrl, config.client.timeoutMs, config.logLevel, address, least, greatest,
    rfl⟩

/-- Since an earlier time, nothing but the configuration has changed, and that is valid if it
has. -/
structure IsSound (project : Project) (tree later : Tree) : Prop where
  elsewhere : ∀ place, place ≠ project.file → tree.IsKeptAt later project.directory place
  file : later.entry project.file = tree.entry project.file ∨
    ∃ octets, IsValidDocument octets ∧ later.entry project.file = some (.file octets)

theorem IsSound.refl (project : Project) (tree : Tree) : IsSound project tree tree :=
  ⟨fun place _ => .refl tree _ place, .inl rfl⟩

theorem IsSound.trans {project : Project} {tree later last : Tree}
    (h : IsSound project tree later) (h' : IsSound project later last) :
    IsSound project tree last where
  elsewhere place other := (h.elsewhere place other).trans (h'.elsewhere place other)
  file := by
    rcases h'.file with same | valid
    · rw [same]
      exact h.file
    · exact .inr valid

/-- No directory is made at the place of the file. -/
theorem isSound_of_isKept {project : Project} {tree later : Tree}
    (kept : tree.IsKept later project.directory) : IsSound project tree later where
  elsewhere place _ := kept place
  file := by
    -- The way to the directory does not lead through the file, which lies in it.
    rcases kept project.file with same | ⟨-, within, -⟩
    · exact .inl same
    · have shorter := within.length_le
      rw [Project.file, List.length_cons] at shorter
      omega

theorem isSound_of_stored {project : Project} {tree later : Tree} {config : Config}
    (stored : Stored project tree later config) : IsSound project tree later where
  elsewhere := stored.elsewhere
  file := .inr ⟨_, isValidDocument_documentOctets config, stored.file⟩

/-- What one invocation leaves is sound. -/
theorem isSound_invoke (program : Program) (state : ProgramState) (args : List String)
    (surroundings : Surroundings) :
    IsSound program.project state.files (program.invoke state args surroundings).state.files := by
  rcases (keepsTo_invoke program state args surroundings).1.files with kept | ⟨config, stored⟩
  · exact isSound_of_isKept kept
  · exact isSound_of_stored stored

/-- What any invocations leave is sound. -/
theorem isSound_after (program : Program) (mode : ConsoleMode) (standing : Standing)
    (calls : List Call) :
    IsSound program.project standing.state.files
      (program.after mode standing calls).state.files := by
  induction calls generalizing standing with
  | nil => exact .refl _ _
  | cons call rest ih =>
    have first := isSound_invoke program standing.state call.args call.surroundings
    exact first.trans (ih (program.next mode standing call))

/-- **Invocations keep to their project.**  After any invocations, every place but that of the
configuration is as it was, or is a directory on the way to it where nothing was; the configuration
is as it was, or is a valid one.  Another invocation changes no files unless it is the setup, and
makes clients only for the valid configuration that counts. -/
theorem files_after (program : Program) (mode : ConsoleMode) (standing : Standing)
    (calls : List Call) :
    let before := standing.state.files
    let found := (program.after mode standing calls).state
    (∀ place, place ≠ program.project.file →
      found.files.entry place = before.entry place ∨
        before.entry place = none ∧ place <:+ program.project.directory ∧
          found.files.entry place = some .directory) ∧
    (found.files.entry program.project.file = before.entry program.project.file ∨
      ∃ octets, IsValidDocument octets ∧
        found.files.entry program.project.file = some (.file octets)) ∧
    ∀ call : Call,
      let invocation := program.invoke found call.args call.surroundings
      (invocation.state.files = found.files ∨
        ∃ command, (program.suite.parse found.options call.args).2 = .ok command ∧
          command.name = "init") ∧
      ∀ config, .client config ∈ invocation.events →
        (Url.parse? config.client.baseUrl.toList).isSome ∧ 1 ≤ config.client.timeoutMs ∧
          config.client.timeoutMs ≤ 600000 ∧
          config.toValue = .object [("version", .ofNat 1),
            ("client", .object [("baseUrl", .string config.client.baseUrl),
              ("timeoutMs", .ofNat config.client.timeoutMs)]),
            ("logLevel", .string config.logLevel.name)] ∧
          ∃ overrides, resolve program.project found.files overrides = .ok config := by
  intro before found
  obtain ⟨elsewhere, file⟩ := isSound_after program mode standing calls
  refine ⟨elsewhere, file, fun call => ?_⟩
  obtain ⟨keeps, unchanged⟩ := keepsTo_invoke program found call.args call.surroundings
  refine ⟨unchanged, fun config mem => ?_⟩
  obtain ⟨address, least, greatest⟩ := isValid_client config.client
  exact ⟨address, least, greatest, rfl, keeps.clients config mem⟩

end Program

end KeyClient
