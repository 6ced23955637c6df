import KeyClient.Program.Process
import KeyClient.Proofs.Program.Grammar
import KeyClient.Proofs.Program.Logging

/-!
# No failure is silent

A process logs the failure that ends it, and what is logged is shown only if the threshold admits
it.  A command line that is carried out fails before it sets the threshold, if it fails at all
(`Program.effects_cases`): once the configuration is resolved the matches are read, the hook accepts
the request, and sending it comes to an outcome that is reported.  So every failure is shown, and
the process ends with the status 1 (`Program.failures_shown`).
-/

namespace KeyClient

open KeyClient.CommandLine

/-- Whether the event is written to the output. -/
def Event.isPrinted : Event → Bool
  | .output .. | .report _ => true
  | _ => false

namespace Console

theorem output_run_of_not_isPrinted (mode : ConsoleMode) {events : List Event}
    (silent : ∀ event ∈ events, event.isPrinted = false) (console : Console) :
    (console.run mode events).output = console.output := by
  induction events generalizing console with
  | nil => rfl
  | cons event rest ih =>
    have last := ih (fun other mem => silent other (List.mem_cons_of_mem _ mem))
      (console.step mode event)
    have first : (console.step mode event).output = console.output := by
      have here := silent event List.mem_cons_self
      cases event with
      | log entry => exact output_logged mode console entry
      | output style text => cases here
      | report text => cases here
      | _ => rfl
    exact last.trans first

/-- The threshold stays unless it is set. -/
theorem threshold_run (mode : ConsoleMode) {events : List Event}
    (unset : ∀ threshold, .setThreshold threshold ∉ events) (console : Console) :
    (console.run mode events).threshold = console.threshold := by
  induction events generalizing console with
  | nil => rfl
  | cons event rest ih =>
    have last := ih (fun threshold mem => unset threshold (List.mem_cons_of_mem _ mem))
      (console.step mode event)
    have first : (console.step mode event).threshold = console.threshold := by
      cases event with
      | log entry => rw [step_log]
      | setThreshold threshold => exact absurd List.mem_cons_self (unset threshold)
      | report text =>
        rw [step]
        split <;> rfl
      | _ => rfl
    exact last.trans first

end Console

/-! ## Effects that leave the threshold alone -/

/-- The threshold is not set, and what fails is not the command line. -/
structure Effects.IsOrdinary (effects : Effects) : Prop where
  threshold : ∀ threshold, .setThreshold threshold ∉ effects.events
  failure : ∀ error, effects.result ≠ .error (.usage error)

section

variable {files : Files.Tree} {events : List Event}
  (unset : ∀ threshold, .setThreshold threshold ∉ events)
include unset

theorem Effects.isOrdinary_done : (done files events).IsOrdinary := ⟨unset, nofun⟩

theorem Effects.isOrdinary_failed {failure : Failure} (other : ∀ error, failure ≠ .usage error) :
    (failed files events failure).IsOrdinary :=
  ⟨unset, fun error same => other error (Except.error.inj same)⟩

theorem Effects.IsOrdinary.after {effects : Effects} (h : effects.IsOrdinary) :
    (effects.after events).IsOrdinary where
  threshold threshold mem := by
    rcases List.mem_append.1 mem with before | within
    · exact unset threshold before
    · exact h.threshold threshold within
  failure := h.failure

end

theorem setThreshold_not_mem_log (entries : List Log.Entry) (threshold : Threshold) :
    .setThreshold threshold ∉ entries.map Event.log := by
  simp

theorem Setup.isOrdinary_save (project : Config.Project) (files : Files.Tree) (config : Config) :
    (save project files config).IsOrdinary := by
  unfold save
  dsimp only
  split
  · next error failed =>
    refine Effects.isOrdinary_failed (by simp) fun usage same => ?_
    cases error with
    | config error => cases same
    | path error => cases error <;> cases same
  · exact Effects.isOrdinary_done (by simp)

theorem Setup.isOrdinary_run (project : Config.Project) (files : Files.Tree) (settings : Settings)
    (answers : Answers) : (run project files settings answers).IsOrdinary := by
  unfold run
  refine Effects.IsOrdinary.after (by simp) ?_
  split
  · unfold chooseAndSave
    split
    · exact Effects.isOrdinary_done (by simp [cancelled])
    · exact isOrdinary_save _ _ _
  · exact Effects.isOrdinary_done (by simp [cancelled])

theorem Failure.app_ne_usage (app : AppError) (error : UsageError) :
    Failure.app app ≠ .usage error := nofun

theorem Show.isOrdinary_run (project : Config.Project) (files : Files.Tree) (pathOnly : Bool)
    (overrides : Config.Overrides) : (run project files pathOnly overrides).IsOrdinary := by
  unfold run
  split
  · exact Effects.isOrdinary_done (by simp [Event.line])
  · refine Effects.IsOrdinary.after (setThreshold_not_mem_log _) ?_
    split
    · exact Effects.isOrdinary_failed (by simp) (Failure.app_ne_usage _)
    · exact Effects.isOrdinary_done (by simp [shown, Event.line])

/-- Without a network only errors come back. -/
theorem Http.isWorded_offline (request : Http.Request) : (Http.offline request).IsWorded := by
  have replies : (∃ message, offline request = .rejected (.error message)) ∨
      ∃ type, offline request = .response (dataResponse type) := by
    unfold offline
    split
    · exact .inl ⟨_, rfl⟩
    · split
      · exact .inl ⟨_, rfl⟩
      · split
        · split
          · exact .inr ⟨_, rfl⟩
          · exact .inl ⟨_, rfl⟩
        · exact .inl ⟨_, rfl⟩
  refine Reply.isWorded_of_error fun reason raises => ?_
  rcases replies with ⟨message, reply⟩ | ⟨type, reply⟩
  · rw [reply] at raises
    cases raises
    exact ⟨message, rfl⟩
  · rw [reply] at raises
    cases raises with
    | unreadable outside broken => cases broken

namespace Program

section

variable {project : Config.Project} {files : Files.Tree}

/-- A request is not sent because there is no configuration, or it is sent. -/
theorem send_cases (options : SuiteState) (command : CommandState) (request : KeyRequest)
    (transport : Http.Transport) :
    let send := (create project Hook.acceptAll).send .keyGet files options command
      (matchesFor request) transport
    send.IsOrdinary ∨ ∃ config,
      Config.resolve project files (overrides options command) = .ok config ∧
        send = sent project files (thresholdOf options command config) config request
          transport := by
  intro send
  cases resolved : Config.resolve project files (overrides options command) with
  | error error =>
    have fails : send = _ :=
      send_of_resolve_error resolved (matchesFor request) transport
    rw [fails]
    refine .inl (Effects.IsOrdinary.after (setThreshold_not_mem_log _) ?_)
    exact Effects.isOrdinary_failed (by simp) (Failure.app_ne_usage _)
  | ok config => exact .inr ⟨config, rfl, send_of_resolve resolved request transport⟩

/-- What the command accepts it reads as some words. -/
theorem exists_keyState {args : List String} {state : CommandState}
    (h : keysAlone args = (state, none)) : ∃ words, state = keyState words := by
  obtain ⟨words, spells⟩ := exists_spells_of_keysAlone (congrArg Prod.snd h)
  exact ⟨words, congrArg Prod.fst (h.symm.trans (keysAlone_of_spells spells))⟩

/-- A command line that is carried out leaves the threshold alone, or it sends a request. -/
theorem effects_cases {args : List String} {command : Command} {state : CommandState}
    (h : standardSuite.outcome args = .ok (command, state)) (surroundings : Surroundings) :
    let effects := (create project Hook.acceptAll).effects files args surroundings
    effects.IsOrdinary ∨ ∃ overrides threshold config request,
      Config.resolve project files overrides = .ok config ∧
        effects = sent project files threshold config request surroundings.transport := by
  intro effects
  have proper : (create project Hook.acceptAll).suite.IsProper := isProper_standardSuite
  obtain ⟨rest, routed, parsed⟩ := Suite.exists_route_of_outcome h
  have mem : command ∈ [setupCommand, showCommand, operationCommand .keyGet] :=
    Suite.mem_of_route routed
  simp only [List.mem_cons, List.not_mem_nil, or_false] at mem
  rcases mem with rfl | rfl | rfl
  · obtain ⟨options, -, -, carried⟩ := effects_of_outcome proper files surroundings h rfl
    rw [show effects = _ from carried]
    exact .inl (Setup.isOrdinary_run _ _ _ _)
  · obtain ⟨options, -, -, carried⟩ := effects_of_outcome proper files surroundings h rfl
    rw [show effects = _ from carried]
    exact .inl (Show.isOrdinary_run _ _ _ _)
  · obtain ⟨options, -, sends⟩ := effects_of_outcome_ok proper files surroundings h rfl
    obtain ⟨words, rfl⟩ := exists_keyState parsed
    rw [matchesOf_keyWords] at sends
    rw [show effects = _ from sends]
    rcases send_cases options _ (KeyWord.request words) surroundings.transport with
      ordinary | ⟨config, resolved, same⟩
    · exact .inl ordinary
    · exact .inr ⟨_, _, config, _, resolved, same⟩

theorem events_effects (program : Program) (files : Files.Tree) (args : List String)
    (surroundings : Surroundings) :
    (program.effects files args surroundings).events =
      (program.invoke (program.fresh files) args surroundings).events := rfl

theorem status_runProcess {program : Program} {args : List String} {surroundings : Surroundings}
    (done : (program.effects files args surroundings).result = .ok ()) (colors : Bool) :
    (program.runProcess files args surroundings colors).status = 0 := by
  have done : (program.invoke (program.fresh files) args surroundings).result = .ok () := done
  unfold runProcess
  dsimp only
  rw [done]

/-- A report at the end is on the output, if nothing else is printed. -/
theorem output_runProcess {program : Program} {args : List String} {surroundings : Surroundings}
    (done : (program.effects files args surroundings).result = .ok ()) {front : List Event}
    {text : String}
    (events : (program.effects files args surroundings).events = front ++ [.report text])
    (silent : ∀ event ∈ front, event.isPrinted = false) (colors : Bool) :
    (program.runProcess files args surroundings colors).output = text ++ "\n" := by
  let invocation := program.invoke (program.fresh files) args surroundings
  have done : invocation.result = .ok () := done
  have all : processEvents invocation = front ++ [.report text] := by
    rw [processEvents, done]
    exact (List.append_nil _).trans events
  have before := Console.output_run_of_not_isPrinted ⟨colors, true⟩ silent (.blank .initial)
  change (Console.run ⟨colors, true⟩ (.blank .initial) (processEvents invocation)).output = _
  rw [all, Console.run, List.foldl_append]
  change (Console.run ⟨colors, true⟩ (.blank .initial) front).output ++ text ++ "\n" = _
  rw [before]
  exact congrArg (· ++ "\n") String.empty_append

/-- What was thrown is logged as an error, and the threshold that processes start with admits
errors. -/
theorem error_runProcess {program : Program} {args : List String} {surroundings : Surroundings}
    {failure : Failure} (ordinary : (program.effects files args surroundings).IsOrdinary)
    (failed : (program.effects files args surroundings).result = .error failure)
    (colors : Bool) :
    let ended := program.runProcess files args surroundings colors
    ended.status = 1 ∧
      ∃ before, ended.error =
        before ++ Log.paint colors .red ("[ERROR] " ++ failure.message) ++ "\n" := by
  intro ended
  let invocation := program.invoke (program.fresh files) args surroundings
  let entry : Log.Entry := .message .error failure.message []
  have failed : invocation.result = .error failure := failed
  have logged : failureEntries failure = [entry] ∧ exitStatus failure = 1 := by
    cases failure with
    | usage error => exact absurd failed (ordinary.failure error)
    | _ => exact ⟨rfl, rfl⟩
  have events : processEvents invocation = invocation.events ++ [.log entry] := by
    rw [processEvents, failed]
    dsimp only
    rw [logged.1]
    rfl
  let console := Console.run ⟨colors, true⟩ (.blank .initial) invocation.events
  have threshold : console.threshold = .initial :=
    Console.threshold_run _ ordinary.threshold _
  have last : Console.run ⟨colors, true⟩ (.blank .initial) (processEvents invocation) =
      console.step ⟨colors, true⟩ (.log entry) := by
    rw [events, Console.run, List.foldl_append]
    rfl
  refine ⟨?_, console.error, ?_⟩
  · have failed : (program.invoke (program.fresh files) args surroundings).result =
      .error failure := failed
    simp only [ended, runProcess, failed]
    exact logged.2
  · change (Console.run _ _ (processEvents invocation)).error = _
    have admitted : Threshold.initial.admits entry.severity = true :=
      (by decide : Threshold.initial.admits Log.Kind.error.severity = true)
    rw [last, Console.step_log, threshold, if_pos admitted, String.append_assoc]
    rfl

/-- A request that is sent and has an outcome is reported at the very end, and nothing else is
printed. -/
theorem events_sent (threshold : Threshold) (config : Config) {request : KeyRequest}
    {transport : Http.Transport} {outcome : Outcome}
    (known : Dispatch.ended (clientOf config.client) transport request = .ok outcome) :
    let effects := sent project files threshold config request transport
    effects.result = .ok () ∧
    ∃ front, effects.events = front ++ [.report (Report.ofOutcome outcome)] ∧
      (∀ event ∈ front, event.isPrinted = false) ∧
      .client config ∈ front ∧ .get "/key" (Client.fields request) ∈ front := by
  intro effects
  let client := clientOf config.client
  let front := (Config.loadEntries project files).map Event.log ++
    [.setThreshold threshold, .log (dispatchEntry .keyGet config), .client config] ++
      Dispatch.asked (.finish .accept) (matchesFor request) request ++
        Dispatch.forwarded client request
  refine ⟨?_, front, ?_, ?_, by simp [front], by simp [front, Dispatch.forwarded]⟩
  · simp only [effects, sent, Effects.after, known, Dispatch.conclude]
  · simp [effects, sent, front, client, Effects.after, known, Dispatch.conclude,
      Dispatch.reportEvent]
  · simp [front, Dispatch.asked, Dispatch.forwarded, Event.isPrinted, Hook.Script.run, or_imp,
      forall_and]

theorem reported_of_not_isPrinted {events : List Event}
    (silent : ∀ event ∈ events, event.isPrinted = false) :
    Dispatch.reported events = [] := by
  refine List.filterMap_eq_nil_iff.2 fun event mem => ?_
  have here := silent event mem
  cases event with
  | report text => cases here
  | _ => rfl

/-- **No failure is silent.**  Whatever the files, and whatever a network does whose errors can be
put in words, a command line that is carried out ends the process with the status 0, or it comes to a
failure, whose message is then the last thing on the error output, as an error, and the status is 1.
Once the threshold has been set by the configuration there is no failure any more: the request is
sent, and its outcome is reported once and is all that is on the output. -/
theorem failures_shown (project : Config.Project) (files : Files.Tree) (args : List String)
    (surroundings : Surroundings) (colors : Bool) {command : Command}
    (worded : ∀ request, (surroundings.transport request).IsWorded)
    (accepted : ((create project Hook.acceptAll).suite.parse
      ((create project Hook.acceptAll).fresh files).options args).2 = .ok command) :
    let program := create project Hook.acceptAll
    let invocation := program.invoke (program.fresh files) args surroundings
    let ended := program.runProcess files args surroundings colors
    (∀ failure, invocation.result = .error failure →
      ended.status = 1 ∧ ∃ before, ended.error =
        before ++ Log.paint colors .red ("[ERROR] " ++ failure.message) ++ "\n") ∧
    (invocation.result = .ok () → ended.status = 0) ∧
    ∀ threshold, .setThreshold threshold ∈ invocation.events →
      invocation.result = .ok () ∧ ∃ overrides config request outcome,
        Config.resolve project files overrides = .ok config ∧
        .client config ∈ invocation.events ∧
        .get "/key" (Client.fields request) ∈ invocation.events ∧
        Dispatch.ended (clientOf config.client) surroundings.transport request = .ok outcome ∧
        Dispatch.reported invocation.events = [Report.ofOutcome outcome] ∧
        ended.output = Report.ofOutcome outcome ++ "\n" := by
  intro program invocation ended
  have proper : program.suite.IsProper := isProper_standardSuite
  obtain ⟨state, outcome⟩ := proper.exists_outcome_of_parse proper.isSettled_fresh accepted
  rcases effects_cases outcome surroundings with
    ordinary | ⟨overrides, threshold, config, request, resolved, sends⟩
  · refine ⟨fun failure failed => error_runProcess ordinary failed colors, fun done => ?_,
      fun threshold mem => absurd mem (ordinary.threshold threshold)⟩
    exact status_runProcess done colors
  · obtain ⟨outcome, known⟩ := Started.exists_finish_of_isWorded worded
      ((clientOf config.client).start "/key" (Client.fields request))
    obtain ⟨done, front, events, silent, client, get⟩ :=
      @events_sent project files threshold config request surroundings.transport outcome known
    rw [← sends] at done events
    have status := status_runProcess done colors
    have output := output_runProcess done events silent colors
    rw [events_effects] at events
    have result : invocation.result = .ok () := done
    refine ⟨fun failure failed => ?_, fun _ => status, fun _ _ =>
      ⟨result, overrides, config, request, outcome, resolved, ?_, ?_, known, ?_, output⟩⟩
    · rw [result] at failed
      cases failed
    · rw [events]
      exact List.mem_append_left _ client
    · rw [events]
      exact List.mem_append_left _ get
    · rw [events, Dispatch.reported_append, reported_of_not_isPrinted silent]
      rfl

end

/-- The directory of the configuration cannot be made below a file. -/
theorem result_invoke_blocked :
    ((create ⟨[], "/app"⟩ Hook.acceptAll).invoke
      ((create ⟨[], "/app"⟩ Hook.acceptAll).fresh
        (Files.Tree.empty.put "app" [] (.file []) rfl nofun))
      ["init", "-y"] ⟨⟨[], []⟩, Http.offline⟩).result =
      .error (.system ⟨.notDirectory, "mkdir", "/app/.key-cli"⟩) := by
  with_unfolding_all rfl

/-- Without a network the server of the defaults is not reached. -/
theorem ended_offline :
    Dispatch.ended (clientOf ClientConfig.default) Http.offline ⟨some true, none⟩ =
      .ok (.unanswered "http://localhost:8080/key?key=true" "fetch failed") := by
  with_unfolding_all rfl

/-- A file stands where the project should be; and a configuration that has nothing logged. -/
theorem failures_shown_blocked_silent :
    let project : Config.Project := ⟨[], "/app"⟩
    let program := create project Hook.acceptAll
    let surroundings : Surroundings := ⟨⟨[], []⟩, Http.offline⟩
    let blocked := Files.Tree.empty.put "app" [] (.file []) rfl nofun
    let quiet := (Config.save project .empty (Config.mk .default .silent).toValue).tree
    let refused := program.runProcess blocked ["init", "-y"] surroundings false
    let sending := program.runProcess quiet ["key-get", "--key=true"] surroundings false
    (∀ request, (surroundings.transport request).IsWorded) ∧
      (∃ before, refused.error =
        before ++ "[ERROR] ENOTDIR: not a directory, mkdir '/app/.key-cli'" ++ "\n") ∧
      refused.status = 1 ∧ Config.load project quiet = .ok ⟨.default, .silent⟩ ∧
      sending.status = 0 ∧
      sending.output = Report.ofOutcome
        (.unanswered "http://localhost:8080/key?key=true" "fetch failed") ++ "\n" := by
  have accepted : ∀ files, ((create ⟨[], "/app"⟩ Hook.acceptAll).suite.parse
      ((create ⟨[], "/app"⟩ Hook.acceptAll).fresh files).options ["init", "-y"]).2 =
      .ok setupCommand := fun files => by with_unfolding_all rfl
  have accepted' : ∀ files, ((create ⟨[], "/app"⟩ Hook.acceptAll).suite.parse
      ((create ⟨[], "/app"⟩ Hook.acceptAll).fresh files).options ["key-get", "--key=true"]).2 =
      .ok (operationCommand .keyGet) := fun files => by with_unfolding_all rfl
  have stored := Config.stored_of_save (Config.check_toValue ⟨.default, .silent⟩)
    (Config.result_save_empty _)
  have words : arguments [] [.inr (.key true)] = ["key-get", KeyWord.text (.key true)] := rfl
  have words : arguments [] [.inr (.key true)] = ["key-get", "--key=true"] := by
    rw [words]
    cbv
  intro project program surroundings blocked quiet refused sending
  have worded : ∀ request, (surroundings.transport request).IsWorded := by
    intro request
    dsimp only [surroundings]
    exact Http.isWorded_offline request
  obtain ⟨status, before, error⟩ := (failures_shown project blocked ["init", "-y"] surroundings
    false worded (accepted _)).1 _ result_invoke_blocked
  obtain ⟨-, status', sending'⟩ := failures_shown project quiet ["key-get", "--key=true"]
    surroundings false worded (accepted' _)
  have sends : program.effects quiet ["key-get", "--key=true"] surroundings =
      sent project quiet (.ofLevel .silent) ⟨.default, .silent⟩ ⟨some true, none⟩
        Http.offline := by
    rw [← words]
    refine (effects_eq_sent stored.holds [] [.inr (.key true)] surroundings).trans ?_
    dsimp only [surroundings]
    rfl
  obtain ⟨-, front, events, silent, -, -⟩ := @events_sent project quiet (.ofLevel .silent)
    ⟨.default, .silent⟩ ⟨some true, none⟩ Http.offline _ ended_offline
  have events : (program.invoke (program.fresh quiet) ["key-get", "--key=true"]
      surroundings).events = _ := (congrArg Effects.events sends).trans events
  have set : .setThreshold (.ofLevel .silent) ∈
      (program.invoke (program.fresh quiet) ["key-get", "--key=true"] surroundings).events := by
    rw [← events_effects, sends]
    exact List.mem_append_right _ List.mem_cons_self
  obtain ⟨done, -, -, -, outcome, -, -, -, -, reports, output⟩ := sending' _ set
  have reports : Dispatch.reported (program.invoke (program.fresh quiet)
      ["key-get", "--key=true"] surroundings).events = [Report.ofOutcome outcome] := reports
  rw [events, Dispatch.reported_append, reported_of_not_isPrinted silent] at reports
  have only : Report.ofOutcome outcome = Report.ofOutcome
      (.unanswered "http://localhost:8080/key?key=true" "fetch failed") :=
    (List.cons.inj reports).1.symm
  have output : sending.output = Report.ofOutcome outcome ++ "\n" := output
  have succeeds : sending.status = 0 := status' done
  rw [only] at output
  exact ⟨worded, ⟨before, error⟩, status, stored.load, succeeds, output⟩

end Program

end KeyClient
