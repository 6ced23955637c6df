import KeyClient.Proofs.CommandLine.Alike
import KeyClient.Proofs.Config.Resolved
import KeyClient.Proofs.Config.Saved
import KeyClient.Proofs.Program.Arranged
import KeyClient.Proofs.Program.Footprint

/-!
# Logging

What is logged goes to the error output, and how much of it is shown follows from `--verbose` and
from the level of the configuration.  Two command lines for keys that differ in these alone do the
same apart from logging (`Program.call_unlogged`): the option counts for nothing but the threshold
(`Program.outcome_of_mem`), and the level is no part of the client (`Config.SameClient.resolve`).
-/

namespace KeyClient

open KeyClient.CommandLine

/-! ## Events apart from logging -/

/-- Whether the event is something that is logged, or decides what is shown of it. -/
def Event.isLogging : Event → Bool
  | .log _ | .setThreshold _ => true
  | _ => false

/-- The event without the level of the configuration that a client is made for. -/
def Event.unlevelled : Event → Event
  | .client config => .client { config with logLevel := .info }
  | event => event

/-- What is done apart from logging. -/
def unlogged (events : List Event) : List Event :=
  (events.filter fun event => !event.isLogging).map Event.unlevelled

@[simp] theorem unlogged_append (events later : List Event) :
    unlogged (events ++ later) = unlogged events ++ unlogged later := by
  rw [unlogged, List.filter_append, List.map_append, unlogged, unlogged]

@[simp] theorem unlogged_map_log (entries : List Log.Entry) : unlogged (entries.map .log) = [] := by
  have none : (entries.map Event.log).filter (fun event => !event.isLogging) = [] :=
    List.filter_eq_nil_iff.2 (by simp [Event.isLogging])
  rw [unlogged, none, List.map_nil]

theorem unlogged_cons_of_isLogging {event : Event} (h : event.isLogging = true)
    (events : List Event) : unlogged (event :: events) = unlogged events := by
  rw [unlogged, List.filter_cons_of_neg (by simp [h]), unlogged]

theorem unlogged_cons_of_not_isLogging {event : Event} (h : event.isLogging = false)
    (events : List Event) : unlogged (event :: events) = event.unlevelled :: unlogged events := by
  rw [unlogged, List.filter_cons_of_pos (by simp [h]), List.map_cons, unlogged]

theorem requested_unlogged (events : List Event) :
    Dispatch.requested (unlogged events) = Dispatch.requested events := by
  rw [Dispatch.requested, Dispatch.requested, unlogged, List.filterMap_map, List.filterMap_filter]
  refine congrArg (List.filterMap · events) (funext fun event => ?_)
  cases event <;> rfl

theorem reported_unlogged (events : List Event) :
    Dispatch.reported (unlogged events) = Dispatch.reported events := by
  rw [Dispatch.reported, Dispatch.reported, unlogged, List.filterMap_map, List.filterMap_filter]
  refine congrArg (List.filterMap · events) (funext fun event => ?_)
  cases event <;> rfl

namespace Console

theorem output_step_of_isLogging (mode : ConsoleMode) (console : Console) {event : Event}
    (h : event.isLogging = true) : (console.step mode event).output = console.output := by
  cases event with
  | log entry => exact output_logged mode console entry
  | setThreshold threshold => rfl
  | _ => cases h

/-- The output is that of the events apart from logging. -/
theorem output_run_unlogged (mode : ConsoleMode) (console : Console) (events : List Event) :
    (console.run mode (unlogged events)).output = (console.run mode events).output := by
  induction events generalizing console with
  | nil => rfl
  | cons event rest ih =>
    cases logging : event.isLogging with
    | true =>
      rw [unlogged_cons_of_isLogging logging, ih]
      exact output_run_congr mode (output_step_of_isLogging mode console logging).symm rest
    | false =>
      have unseen : console.step mode event.unlevelled = console.step mode event := by
        cases event <;> rfl
      rw [unlogged_cons_of_not_isLogging logging]
      exact (congrArg (fun next => (run mode next (unlogged rest)).output) unseen).trans (ih _)

end Console

/-! ## Configurations that differ in the level -/

namespace Config

/-- The trees hold the same at the place of the file, or valid configurations that differ in the
level at most. -/
inductive SameClient (project : Project) (tree tree' : Files.Tree) : Prop
  | entry (same : tree.entry project.file = tree'.entry project.file)
  | level {config config' : Config} (valid : load project tree = .ok config)
      (valid' : load project tree' = .ok config') (client : config.client = config'.client)

variable {project : Project} {tree tree' : Files.Tree}

theorem isConfigured_of_load {config : Config} (h : load project tree = .ok config) :
    project.isConfigured tree = true := by
  cases configured : project.isConfigured tree with
  | true => rfl
  | false =>
    rw [load, configured] at h
    cases h

theorem base_of_load {config : Config} (h : load project tree = .ok config) :
    base project tree = .ok config := by
  rw [base, isConfigured_of_load h, if_pos rfl, h]

theorem Holds.congr {found : Except ConfigError Config} (h : Holds project tree found)
    (same : tree'.entry project.file = tree.entry project.file) : Holds project tree' found := by
  cases h with
  | nothing absent => exact .nothing (same.trans absent)
  | directory there => exact .directory (same.trans there)
  | malformed there unread => exact .malformed (same.trans there) unread
  | rejected there read invalid => exact .rejected (same.trans there) read invalid
  | valid there read valid => exact .valid (same.trans there) read valid

theorem SameClient.loadEntries (h : SameClient project tree tree') :
    loadEntries project tree = loadEntries project tree' := by
  have configured : project.isConfigured tree = project.isConfigured tree' := by
    cases h with
    | entry same => simp only [Project.isConfigured, Files.Tree.has, same]
    | level valid valid' => rw [isConfigured_of_load valid, isConfigured_of_load valid']
  rw [Config.loadEntries, Config.loadEntries, configured]

/-- Configurations of one client are resolved to configurations of one client. -/
theorem SameClient.resolve (h : SameClient project tree tree') (overrides : Overrides) :
    (∃ error, resolve project tree overrides = .error error ∧
      resolve project tree' overrides = .error error) ∨
    ∃ config config', resolve project tree overrides = .ok config ∧
      resolve project tree' overrides = .ok config' ∧ config.client = config'.client := by
  cases h with
  | entry same =>
    have base : base project tree = base project tree' :=
      ((holds_base project tree').congr same).base_eq
    rw [Config.resolve, base, ← Config.resolve]
    cases Config.resolve project tree' overrides with
    | error error => exact .inl ⟨error, rfl, rfl⟩
    | ok config => exact .inr ⟨config, config, rfl, rfl, rfl⟩
  | @level config config' valid valid' client =>
    rw [Config.resolve, Config.resolve, base_of_load valid, base_of_load valid']
    dsimp only
    rcases check_merge_cases overrides config with
      ⟨none, laid, accepted, -, members⟩ | ⟨some, refused⟩
    · rcases check_merge_cases overrides config' with
        ⟨-, laid', accepted', -, members'⟩ | ⟨some, -⟩
      · rw [accepted, accepted']
        have same : Config.mk laid.client .info = Config.mk laid'.client .info := by
          refine toValue_injective ?_
          rw [toValue, toValue, members, members', client]
        exact .inr ⟨laid, laid', rfl, rfl, (congrArg Config.client same :)⟩
      · exact absurd none some
    · rcases check_merge_cases overrides config' with ⟨none, -⟩ | ⟨-, refused'⟩
      · exact absurd none some
      · rw [refused, refused']
        exact .inl ⟨_, rfl, rfl⟩

end Config

namespace Program

/-! ## The option for logging -/

/-- The options of the root take no note of what `--verbose` has set. -/
theorem respects_verbose :
    Scan.Respects standardSuite.context (OptionValues.AgreeOff [verboseOption.slot]) where
  receive spec mem given values others h := by
    have options : standardSuite.context.command.options =
        [baseUrlOption, timeoutOption, verboseOption] := rfl
    rw [options] at mem
    simp only [List.mem_cons, List.not_mem_nil, or_false] at mem
    rcases mem with rfl | rfl | rfl
    · rw [h.get (by decide)]
    · rw [h.get (by decide)]
    · cases given <;> rfl
  set spec mem v _ _ h := h.setBoth (isProper_standardSuite.root spec mem) v none

/-- In front of a command line, `--verbose` sets its value and nothing else. -/
theorem route_verbose (values : OptionValues) (args : List String) :
    standardSuite.route values ("--verbose" :: args) =
      standardSuite.route (values.set verboseOption.slot (.bool true) none) args :=
  route_settings (fun word => step_rootWord word) [.verbose] values args

section

variable {args words : List String}

/-- With or without the option in front, the words go to the same command, and the values of the
root differ in that option at most. -/
theorem route_of_mem (mem : words ∈ [args, "--verbose" :: args]) (values : OptionValues) :
    (standardSuite.route values words).2 = (standardSuite.route values args).2 ∧
      OptionValues.AgreeOff [verboseOption.slot] (standardSuite.route values words).1
        (standardSuite.route values args).1 := by
  simp only [List.mem_cons, List.not_mem_nil, or_false] at mem
  rcases mem with rfl | rfl
  · exact ⟨rfl, .refl _ _⟩
  · have agree : OptionValues.AgreeOff [verboseOption.slot]
        (values.set verboseOption.slot (.bool true) none) values :=
      (OptionValues.AgreeOff.refl _ _).set List.mem_cons_self (by decide) _ _
    rw [route_verbose]
    exact Suite.route_alike respects_verbose agree args

/-- The option in front does not change what a command line comes to. -/
theorem outcome_of_mem (mem : words ∈ [args, "--verbose" :: args]) :
    standardSuite.outcome words = standardSuite.outcome args := by
  rw [Suite.outcome, Suite.outcome, (route_of_mem mem _).1]

end

/-! ## Invocations apart from logging -/

section

variable {project : Config.Project} {files files' : Files.Tree} {args words words' : List String}

/-- Sending depends on the level and on `--verbose` in what is shown of the log alone. -/
theorem unlogged_send (same : Config.SameClient project files files') {options others : SuiteState}
    {command : CommandState} {hook : Hook}
    (h : ∀ spec ∈ [baseUrlOption, timeoutOption],
      globalValue options command spec = globalValue others command spec)
    (operation : Operation) (m : Matches) (transport : Http.Transport) :
    let send := fun files options =>
      (create project hook).send operation files options command m transport
    unlogged (send files options).events = unlogged (send files' others).events ∧
      (send files options).result = (send files' others).result := by
  intro send
  simp only [List.forall_mem_cons] at h
  have given : overrides options command = overrides others command := by
    rw [overrides, overrides, h.1, h.2.1]
  have project : (create project hook).project = project := rfl
  simp only [send, Program.send, given, project]
  rcases same.resolve (overrides others command) with
    ⟨error, fails, fails'⟩ | ⟨config, config', found, found', client⟩
  · rw [fails, fails']
    simp [Effects.after, Effects.failed]
  · rw [found, found']
    have silent : ∀ (threshold : Threshold) (entry : Log.Entry) (config : Config)
        (events : List Event),
        unlogged (.setThreshold threshold :: .log entry :: .client config :: events) =
          .client ⟨config.client, .info⟩ :: unlogged events := fun _ _ _ _ => rfl
    simp only [Effects.after, unlogged_append, unlogged_map_log, silent, client, and_self]

/-- The command line comes to nothing but the command for keys. -/
def IsForKeys (args : List String) : Prop :=
  ∀ command state, standardSuite.outcome args = .ok (command, state) →
    command = operationCommand .keyGet

theorem effects_unlogged (same : Config.SameClient project files files') (keys : IsForKeys args)
    (mem : words ∈ [args, "--verbose" :: args]) (mem' : words' ∈ [args, "--verbose" :: args])
    (hook : Hook) (surroundings : Surroundings) :
    let effects := (create project hook).effects files words surroundings
    let effects' := (create project hook).effects files' words' surroundings
    unlogged effects.events = unlogged effects'.events ∧ effects.result = effects'.result ∧
      effects.files = files ∧ effects'.files = files' := by
  intro effects effects'
  have proper : (create project hook).suite.IsProper := isProper_standardSuite
  cases outcome : standardSuite.outcome args with
  | error halt =>
    have halts : effects = halted files halt :=
      effects_of_outcome_error proper files surroundings ((outcome_of_mem mem).trans outcome)
    have halts' : effects' = halted files' halt :=
      effects_of_outcome_error proper files' surroundings ((outcome_of_mem mem').trans outcome)
    rw [halts, halts']
    exact ⟨rfl, rfl, rfl, rfl⟩
  | ok found =>
    obtain ⟨command, state⟩ := found
    obtain rfl := keys command state outcome
    obtain ⟨options, root, sends⟩ := effects_of_outcome_ok proper files surroundings
      ((outcome_of_mem mem).trans outcome) rfl
    obtain ⟨others, root', sends'⟩ := effects_of_outcome_ok proper files' surroundings
      ((outcome_of_mem mem').trans outcome) rfl
    have agree := (route_of_mem mem (CommandState.fresh rootCommand).values).2
    have agree' := (route_of_mem mem' (CommandState.fresh rootCommand).values).2
    have given : ∀ spec ∈ [baseUrlOption, timeoutOption], ∀ command : CommandState,
        globalValue options command spec = globalValue others command spec := by
      intro spec spelled command
      have off : ∀ spec ∈ [baseUrlOption, timeoutOption], spec.slot ∉ [verboseOption.slot] := by
        decide
      have own := (agree.own? (off spec spelled)).trans (agree'.own? (off spec spelled)).symm
      rw [globalValue, globalValue, root, root']
      exact congrArg (fun v => (Option.or v _).getD .undefined) own
    obtain ⟨events, result⟩ := unlogged_send same (fun spec spelled => given spec spelled _)
      .keyGet ((operationCommand .keyGet).matchesOf state.values) surroundings.transport
    rw [show effects = _ from sends, show effects' = _ from sends']
    exact ⟨events, result, files_send _ _ _ _ _ _, files_send _ _ _ _ _ _⟩

/-- **Logging does not interfere.**  Two invocations with a command line for keys, one of them
perhaps with `--verbose` in front, on files that differ in the level of a valid configuration at
most, do the same apart from logging: they send the same requests, report the same outcomes, write
the same output, end in the same way and leave the files as they were.  Whatever is logged goes to
the error output alone, at every threshold. -/
theorem call_unlogged (same : Config.SameClient project files files') (keys : IsForKeys args)
    (mem : words ∈ [args, "--verbose" :: args]) (mem' : words' ∈ [args, "--verbose" :: args])
    (hook : Hook) (surroundings : Surroundings) (threshold threshold' : Threshold)
    (mode : ConsoleMode) :
    let program := create project hook
    let first := program.call mode ⟨program.fresh files, threshold⟩ ⟨words, surroundings⟩
    let second := program.call mode ⟨program.fresh files', threshold'⟩ ⟨words', surroundings⟩
    unlogged first.1.events = unlogged second.1.events ∧
      Dispatch.requested first.1.events = Dispatch.requested second.1.events ∧
      Dispatch.reported first.1.events = Dispatch.reported second.1.events ∧
      first.2.output = second.2.output ∧ first.1.result = second.1.result ∧
      first.1.state.files = files ∧ second.1.state.files = files' ∧
      ∀ (console : Console) (entry : Log.Entry),
        console.step mode (.log entry) =
          { console with
            error := console.error ++
              if console.threshold.admits entry.severity then entry.block mode.colors
              else "" } := by
  intro program first second
  obtain ⟨events, result, kept, kept'⟩ := effects_unlogged same keys mem mem' hook surroundings
  have events : unlogged first.1.events = unlogged second.1.events := events
  refine ⟨events, ?_, ?_, ?_, result, kept, kept', Console.step_log mode⟩
  · rw [← requested_unlogged, events, requested_unlogged]
  · rw [← reported_unlogged, events, reported_unlogged]
  · have blank : (Console.blank threshold).output = (Console.blank threshold').output := rfl
    calc first.2.output
        = (Console.run mode (.blank threshold) (unlogged first.1.events)).output :=
          (Console.output_run_unlogged _ _ _).symm
      _ = (Console.run mode (.blank threshold') (unlogged second.1.events)).output := by
          rw [events]
          exact Console.output_run_congr mode blank _
      _ = second.2.output := Console.output_run_unlogged _ _ _

end

/-- Files that say `silent` and `debug`, and `--verbose` in front of the second command line. -/
theorem call_unlogged_silent :
    let project : Config.Project := ⟨[], "/app"⟩
    let filesOf := fun level =>
      (Config.save project .empty (Config.mk .default level).toValue).tree
    let surroundings : Surroundings := ⟨⟨[], []⟩, Http.offline⟩
    let args := ["key-get", "--key=true"]
    let program := create project Hook.acceptAll
    let mode : ConsoleMode := ⟨false, true⟩
    let first := program.call mode ⟨program.fresh (filesOf .silent), none⟩ ⟨args, surroundings⟩
    let second := program.call mode ⟨program.fresh (filesOf .debug), .initial⟩
      ⟨"--verbose" :: args, surroundings⟩
    Config.SameClient project (filesOf .silent) (filesOf .debug) ∧ IsForKeys args ∧
      Dispatch.requested first.1.events = Dispatch.requested second.1.events ∧
      first.2.output = second.2.output ∧ first.1.result = second.1.result := by
  intro project filesOf surroundings args program mode first second
  have valid : ∀ level, Config.load project (filesOf level) = .ok ⟨.default, level⟩ :=
    fun level => (Config.stored_of_save (Config.check_toValue _) (Config.result_save_empty _)).load
  have same : Config.SameClient project (filesOf .silent) (filesOf .debug) :=
    .level (valid .silent) (valid .debug) rfl
  have keys : IsForKeys args := by
    intro command state outcome
    obtain ⟨rest, routed, -⟩ := Suite.exists_route_of_outcome outcome
    exact Suite.command_of_route find?_keys isOptionLike_keys routed
  have alike := call_unlogged same keys List.mem_cons_self
    (List.mem_cons_of_mem _ List.mem_cons_self) Hook.acceptAll surroundings none .initial mode
  exact ⟨same, keys, alike.2.1, alike.2.2.2.1, alike.2.2.2.2.1⟩

end Program

end KeyClient
