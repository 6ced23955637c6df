import KeyClient.Http.Offline
import KeyClient.Proofs.CommandLine.Routed
import KeyClient.Proofs.Dispatch.Alone
import KeyClient.Proofs.Program.History

/-!
# The command for keys in the program and on its own

The root of the program takes its options wherever they stand before `--`, even as the value of an
option of a command.  A command line for keys without such words (`isRootWord`) comes to what the
command for keys makes of it on its own (`effects_of_ignores`), so the dispatcher gets the same
matches; whatever the words are, it gets what the command makes of those that the root leaves
(`route_of_consult`).  A value of `--unique-key` arrives as it is exactly if it is no word of the
root (`keys_alone`).
-/

namespace KeyClient

open KeyClient.CommandLine KeyClient.CommandLine.Scan

namespace Dispatch

/-- A run asks the hook about its own matches and the request that their flags describe. -/
theorem consult_mem_run_iff {client : Client} {hook : Hook} {transport : Http.Transport}
    {m m' : Matches} {r : KeyRequest} :
    .consult m' r ∈ (run client hook transport m).1 ↔ m' = m ∧ ofFlags m = .ok r := by
  cases flags : ofFlags m with
  | error error =>
    rw [run, start_of_ofFlags_error flags]
    simp [Run.finish]
  | ok request =>
    cases verdict : verdictFailure? (hook m request).verdict with
    | some failure =>
      rw [run, start_of_failure flags verdict]
      simp [Run.finish, consult, eq_comm]
    | none =>
      rw [run, start_of_accept flags verdict]
      have unasked : ∀ outcome, .consult m' r ∉ (conclude outcome).1 := by
        intro outcome mem
        obtain ⟨text, report⟩ := eq_report_of_mem_conclude mem
        cases report
      simp [unasked, Run.finish, consult, send, Dispatch.get, eq_comm]

end Dispatch

namespace Program

/-! ## Words that the root takes -/

/-- Whether the word is an option of the root, alone or with more behind it. -/
def isRootWord (word : String) : Bool :=
  ["--base-url", "--timeout", "--verbose", "--version"].contains word ||
    ["-v", "-V", "--base-url=", "--timeout="].any (·.toList.isPrefixOf word.toList)

/-- How the options of the root are spelled: those with values, and those without. -/
theorem spelling_root {word : String} {spec : OptionSpec}
    (h : standardSuite.context.find? word = some spec) :
    (spec.isRequired || spec.isOptional) = true ∧ word ∈ ["--base-url", "--timeout"] ∨
      (spec.isRequired || spec.isOptional) = false ∧
        word ∈ ["-V", "--version", "-v", "--verbose"] := by
  obtain ⟨mem, spelled⟩ := Suite.spelling_of_find? h
  rw [OptionSpec.hasSpelling_iff] at spelled
  have options : standardSuite.options =
      [versionOption, baseUrlOption, timeoutOption, verboseOption] := rfl
  rw [options] at mem
  simp only [List.mem_cons, List.not_mem_nil, or_false] at mem
  rcases mem with rfl | rfl | rfl | rfl
  · refine .inr ⟨by decide, ?_⟩
    rcases spelled with spelled | spelled <;> cases spelled <;> decide
  · refine .inl ⟨by decide, ?_⟩
    rcases spelled with spelled | spelled <;> cases spelled
    decide
  · refine .inl ⟨by decide, ?_⟩
    rcases spelled with spelled | spelled <;> cases spelled
    decide
  · refine .inr ⟨by decide, ?_⟩
    rcases spelled with spelled | spelled <;> cases spelled <;> decide

theorem isRootWord_of_prefix {word start : String}
    (mem : start ∈ ["-v", "-V", "--base-url=", "--timeout="])
    (front : start.toList <+: word.toList) : isRootWord word = true := by
  have some : ["-v", "-V", "--base-url=", "--timeout="].any
      (·.toList.isPrefixOf word.toList) = true :=
    List.any_eq_true.2 ⟨start, mem, List.isPrefixOf_iff_prefix.2 front⟩
  rw [isRootWord, some, Bool.or_true]

theorem isRootWord_of_find? {word : String}
    (h : (standardSuite.context.find? word).isSome) : isRootWord word = true := by
  obtain ⟨spec, found⟩ := Option.isSome_iff_exists.1 h
  have all : ∀ word ∈ ["--base-url", "--timeout", "-V", "--version", "-v", "--verbose"],
      isRootWord word = true := by decide
  rcases spelling_root found with ⟨-, mem⟩ | ⟨-, mem⟩
  · exact all word (List.mem_append_left ["-V", "--version", "-v", "--verbose"] mem)
  · exact all word (List.mem_append_right ["--base-url", "--timeout"] mem)

theorem isRootWord_of_group? {word : String}
    (h : (group? standardSuite.context word).isSome) : isRootWord word = true := by
  obtain ⟨c, d, rest, spec, chars, found⟩ := letter_of_group? h
  have letter : ∀ spelling : String, spelling.toList = ['-', c] →
      spelling ∈ ["--base-url", "--timeout"] ∨
        spelling ∈ ["-V", "--version", "-v", "--verbose"] → c = 'V' ∨ c = 'v' := by
    intro spelling same mem
    simp only [List.mem_cons, List.not_mem_nil, or_false] at mem
    rcases mem with (rfl | rfl) | rfl | rfl | rfl | rfl <;> cases same
    · exact .inl rfl
    · exact .inr rfl
  rcases letter _ String.toList_ofList
    ((spelling_root found).imp And.right And.right) with rfl | rfl
  · exact isRootWord_of_prefix (by decide : "-V" ∈ _) (chars ▸ ⟨d :: rest, rfl⟩)
  · exact isRootWord_of_prefix (by decide : "-v" ∈ _) (chars ▸ ⟨d :: rest, rfl⟩)

theorem isRootWord_of_assignment? {word : String}
    (h : (assignment? standardSuite.context word).isSome) : isRootWord word = true := by
  obtain ⟨name, value, spec, chars, found, valued⟩ := name_of_assignment? h
  rcases spelling_root found with ⟨-, mem⟩ | ⟨valueless, -⟩
  · simp only [List.mem_cons, List.not_mem_nil, or_false] at mem
    rcases mem with same | same
    · have spelled : '-' :: '-' :: name = "--base-url".toList := by
        rw [← same, String.toList_ofList]
      exact isRootWord_of_prefix (by decide : "--base-url=" ∈ _)
        (chars ▸ ⟨value, by cases spelled; rfl⟩)
    · have spelled : '-' :: '-' :: name = "--timeout".toList := by
        rw [← same, String.toList_ofList]
      exact isRootWord_of_prefix (by decide : "--timeout=" ∈ _)
        (chars ▸ ⟨value, by cases spelled; rfl⟩)
  · rw [valueless] at valued
    cases valued

/-- The root takes the words of its options. -/
theorem takes_root_iff (word : String) :
    standardSuite.context.Takes word ↔ isRootWord word = true := by
  constructor
  · rintro ⟨-, -, found | found | found⟩
    · exact isRootWord_of_find? found
    · exact isRootWord_of_group? found
    · exact isRootWord_of_assignment? found
  · intro h
    rcases (Bool.or_eq_true _ _).mp h with mem | front
    · have all : ∀ word ∈ ["--base-url", "--timeout", "--verbose", "--version"],
          isOptionLike word = true ∧ word ≠ "--" ∧ (standardSuite.context.find? word).isSome := by
        decide +kernel
      obtain ⟨looks, ne, found⟩ := all word (List.contains_iff_mem.1 mem)
      exact ⟨looks, ne, .inl found⟩
    · obtain ⟨start, mem, front⟩ := List.any_eq_true.1 front
      obtain ⟨rest, chars⟩ := List.isPrefixOf_iff_prefix.1 front
      simp only [List.mem_cons, List.not_mem_nil, or_false] at mem
      rcases mem with rfl | rfl | rfl | rfl
      · exact takes_of_letter chars.symm (by decide) (by decide +kernel)
      · exact takes_of_letter chars.symm (by decide) (by decide +kernel)
      · have baseUrl : standardSuite.context.find? "--base-url" = some baseUrlOption := rfl
        have chars : word.toList = '-' :: '-' :: 'b' :: ("ase-url".toList ++ '=' :: rest) :=
          chars.symm
        exact takes_of_assignment chars (by decide) baseUrl (by decide)
      · have timeout : standardSuite.context.find? "--timeout" = some timeoutOption := rfl
        have chars : word.toList = '-' :: '-' :: 't' :: ("imeout".toList ++ '=' :: rest) :=
          chars.symm
        exact takes_of_assignment chars (by decide) timeout (by decide)

/-! ## What an invocation comes to -/

section

variable {program : Program} {files : Files.Tree} {args : List String}

/-- What an invocation does. -/
def effects (program : Program) (files : Files.Tree) (args : List String)
    (surroundings : Surroundings) : Effects :=
  let invocation := program.invoke (program.fresh files) args surroundings
  ⟨invocation.events, invocation.state.files, invocation.result⟩

/-- The effects of a command line that is not carried out. -/
def halted (files : Files.Tree) (halt : Halt) : Effects :=
  .failed files [haltEvent halt] (.usage halt.error)

theorem effects_of_outcome_error (proper : program.suite.IsProper) (files : Files.Tree)
    (surroundings : Surroundings) {halt : Halt} (h : program.suite.outcome args = .error halt) :
    program.effects files args surroundings = halted files halt := by
  obtain ⟨result, -⟩ := proper.outcome_eq proper.isSettled_fresh args
  rw [h] at result
  unfold effects invoke fresh
  dsimp only
  generalize program.suite.parse program.suite.fresh args = parsed at *
  obtain ⟨left, _⟩ := parsed
  dsimp only at result
  subst result
  rfl

/-- A command line that comes to a command has the effects of carrying it out, with the values that
the root picked out. -/
theorem effects_of_outcome (proper : program.suite.IsProper) (files : Files.Tree)
    (surroundings : Surroundings) {command : Command} {new : CommandState} {task : Task}
    (h : program.suite.outcome args = .ok (command, new))
    (named : Task.ofName? command.name = some task) :
    ∃ options : SuiteState,
      options.root.values =
        (program.suite.route (CommandState.fresh program.suite.root).values args).1 ∧
      options.find command = new ∧
      program.effects files args surroundings =
        (program.carryOut task command files options surroundings).1 := by
  obtain ⟨result, leaves⟩ := proper.outcome_eq proper.isSettled_fresh args
  rw [h] at result
  obtain ⟨-, found, -⟩ := leaves.command _ _ h
  unfold effects invoke fresh
  dsimp only
  generalize program.suite.parse program.suite.fresh args = parsed at *
  obtain ⟨left, _⟩ := parsed
  dsimp only [Except.map] at result
  subst result
  dsimp only
  rw [named]
  exact ⟨left, congrArg CommandState.values leaves.root, found, rfl⟩

/-- A command line that comes to a request has the effects of sending it. -/
theorem effects_of_outcome_ok (proper : program.suite.IsProper) (files : Files.Tree)
    (surroundings : Surroundings) {command : Command} {new : CommandState} {operation : Operation}
    (h : program.suite.outcome args = .ok (command, new))
    (task : Task.ofName? command.name = some (.send operation)) :
    ∃ options : SuiteState,
      options.root.values =
        (program.suite.route (CommandState.fresh program.suite.root).values args).1 ∧
      program.effects files args surroundings =
        program.send operation files options (new.take command).2
          (command.matchesOf new.values) surroundings.transport := by
  obtain ⟨options, root, found, effects⟩ := effects_of_outcome proper files surroundings h task
  refine ⟨options.update command.name (new.take command).2, root, ?_⟩
  rw [effects]
  unfold carryOut
  dsimp only
  rw [found]
  rfl

theorem consult_not_mem_halted {m : Matches} {r : KeyRequest} (halt : Halt) :
    .consult m r ∉ (halted files halt).events := by
  intro h
  have only := List.mem_singleton.1 h
  unfold haltEvent at only
  split at only <;> cases only

/-- Nothing but the run asks the hook. -/
theorem consult_of_mem_send {operation : Operation} {options : SuiteState} {command : CommandState}
    {m m' : Matches} {r : KeyRequest} {transport : Http.Transport}
    (h : .consult m' r ∈ (program.send operation files options command m transport).events) :
    m' = m ∧ Dispatch.ofFlags m = .ok r := by
  have unlogged : ∀ entries : List Log.Entry, .consult m' r ∉ entries.map Event.log :=
    fun _ => by simp
  unfold send at h
  rcases List.mem_append.1 h with logged | sent
  · exact absurd logged (unlogged _)
  · split at sent
    · cases sent
    · exact Dispatch.consult_mem_run_iff.1 (by simpa using sent)

end

/-! ## The command for keys -/

/-- What the command for keys makes of some arguments on its own. -/
def keysAlone (args : List String) : CommandState × Option Halt :=
  (operationCommand .keyGet).parse none (.fresh (operationCommand .keyGet)) [] args

/-- What the dispatcher does with matches under a configuration, and what comes before it. -/
def dispatched (program : Program) (files : Files.Tree) (config : Config) (m : Matches)
    (transport : Http.Transport) : Effects :=
  let (events, result) := Dispatch.run (clientOf config.client) program.hook transport m
  .after ((Config.loadEntries program.project files).map .log)
    ⟨.setThreshold (.ofLevel config.logLevel) :: .log (dispatchEntry .keyGet config) ::
        .client config :: events, files, result⟩

theorem find?_keys : standardSuite.find? "key-get" = some (operationCommand .keyGet) := rfl

theorem isOptionLike_keys : isOptionLike "key-get" = false := rfl

/-- On its own, the command for keys takes every value, and the request carries it. -/
theorem keysAlone_uniqueKey (s : String) :
    ∃ state, keysAlone ["--unique-key", s] = (state, none) ∧
      Dispatch.ofFlags ((operationCommand .keyGet).matchesOf state.values) =
        .ok ⟨none, some s⟩ := by
  let initial := (CommandState.fresh (operationCommand .keyGet)).values
  let last : Scan := .start (initial.set "uniqueKey" (.string s) none)
  have first : Scan.step (.ofCommand (operationCommand .keyGet)) (.start initial) "--unique-key"
      [s] = .skip last := rfl
  have scanned : Scan.run (.ofCommand (operationCommand .keyGet)) (.start initial)
      ["--unique-key", s] = (last, none) := by
    rw [run_of_skip first, List.tail_cons, Scan.run]
  refine ⟨⟨last.values, some initial.copy⟩, ?_, rfl⟩
  have prepared : (CommandState.fresh (operationCommand .keyGet)).prepare =
      ⟨initial, some initial.copy⟩ := rfl
  rw [keysAlone, Command.parse, prepared]
  dsimp only
  rw [scanned]
  rfl

/-- An option that wants a value is not enough. -/
theorem keysAlone_missing : (keysAlone ["--unique-key"]).2 ≠ none := by
  decide +kernel

section

variable {project : Config.Project} {hook : Hook} {files : Files.Tree} {config : Config}
  {surroundings : Surroundings}

/-- The command for keys sets no option of the root. -/
theorem globalValue_take {options : SuiteState} {state : CommandState}
    (reached : CommandState.Reached (operationCommand .keyGet) state) :
    ∀ spec ∈ [baseUrlOption, timeoutOption, verboseOption],
      globalValue options (state.take (operationCommand .keyGet)).2 spec =
        (options.root.values.own? spec.slot).getD .undefined := by
  intro spec mem
  have grounded : (operationCommand .keyGet).IsGrounded :=
    isProper_standardSuite.commands _ (by simp [standardSuite, suiteWith])
  have foreign : ∀ spec ∈ [baseUrlOption, timeoutOption, verboseOption],
      spec.slot ∉ (operationCommand .keyGet).slots := by decide +kernel
  have own : (state.take (operationCommand .keyGet)).2.values.own? spec.slot = none :=
    (reached.agreeOff_take grounded).own? (foreign spec mem)
  rw [globalValue, own, Option.or_none]

theorem globalValue_keys {options : SuiteState} {state : CommandState}
    (root : options.root.values = (CommandState.fresh rootCommand).values)
    (reached : CommandState.Reached (operationCommand .keyGet) state) :
    ∀ spec ∈ [baseUrlOption, timeoutOption, verboseOption],
      globalValue options (state.take (operationCommand .keyGet)).2 spec =
        globalValue standardSuite.fresh (.fresh (operationCommand .keyGet)) spec := by
  intro spec mem
  rw [globalValue_take reached spec mem, root]
  rfl

/-- Without a configuration nothing is sent. -/
theorem send_of_resolve_error {options : SuiteState} {state : CommandState}
    {error : Config.ConfigError}
    (resolved : Config.resolve project files (overrides options state) = .error error) (m : Matches)
    (transport : Http.Transport) :
    (create project hook).send .keyGet files options state m transport =
      .after ((Config.loadEntries project files).map .log)
        (.failed files [] (.app error.toError)) := by
  have resolved : Config.resolve (create project hook).project files (overrides options state) =
    .error error := resolved
  rw [send, resolved]
  rfl

/-- With a configuration, and its own threshold, the matches are dispatched. -/
theorem send_eq_dispatched {options : SuiteState} {state : CommandState}
    (resolved : Config.resolve project files (overrides options state) = .ok config)
    (quiet : thresholdOf options state config = .ofLevel config.logLevel) (m : Matches)
    (transport : Http.Transport) :
    (create project hook).send .keyGet files options state m transport =
      (create project hook).dispatched files config m transport := by
  have resolved : Config.resolve (create project hook).project files (overrides options state) =
    .ok config := resolved
  rw [send, resolved]
  dsimp only
  rw [quiet, dispatched]

theorem send_keys (resolved : Config.resolve project files ⟨.undefined, .undefined⟩ = .ok config)
    {options : SuiteState} {state : CommandState}
    (root : options.root.values = (CommandState.fresh rootCommand).values)
    (reached : CommandState.Reached (operationCommand .keyGet) state) (m : Matches)
    (transport : Http.Transport) :
    (create project hook).send .keyGet files options (state.take (operationCommand .keyGet)).2 m
        transport =
      (create project hook).dispatched files config m transport := by
  have unset : overrides standardSuite.fresh (.fresh (operationCommand .keyGet)) =
      ⟨.undefined, .undefined⟩ := by rfl
  rw [send_congr (globalValue_keys root reached)]
  exact send_eq_dispatched (unset ▸ resolved) (by rfl) m transport

/-- Without words that the root takes, the dispatcher gets what the command for keys makes of the
arguments on its own. -/
theorem effects_of_ignores
    (resolved : Config.resolve project files ⟨.undefined, .undefined⟩ = .ok config)
    {args : List String} (h : standardSuite.context.Ignores args) :
    match keysAlone args with
    | (state, none) =>
      (create project hook).effects files ("key-get" :: args) surroundings =
        (create project hook).dispatched files config
          ((operationCommand .keyGet).matchesOf state.values) surroundings.transport
    | (_, some _) =>
      ∃ halt, (create project hook).effects files ("key-get" :: args) surroundings =
        halted files halt := by
  have proper : (create project hook).suite.IsProper := isProper_standardSuite
  have outcome := Suite.outcome_of_ignores find?_keys isOptionLike_keys h
  have kept := Suite.route_of_ignores find?_keys isOptionLike_keys h
    (CommandState.fresh rootCommand).values
  change match keysAlone args with
    | (new, none) => standardSuite.outcome ("key-get" :: args) = .ok (operationCommand .keyGet, new)
    | (_, some _) => ∃ halt, standardSuite.outcome ("key-get" :: args) = .error halt at outcome
  cases parsed : keysAlone args with
  | mk state halt =>
    rw [parsed] at outcome
    cases halt with
    | some halt =>
      obtain ⟨halt', outcome⟩ := outcome
      exact ⟨halt', effects_of_outcome_error proper files surroundings outcome⟩
    | none =>
      obtain ⟨options, root, effects⟩ :=
        effects_of_outcome_ok proper files surroundings outcome rfl
      have reached : CommandState.Reached (operationCommand .keyGet) (keysAlone args).1 :=
        .parse none [] args .fresh
      rw [parsed] at reached
      rw [effects]
      exact send_keys resolved (root.trans (congrArg Prod.fst kept)) reached _ _

/-- The hook is asked about nothing but what the command for keys makes on its own of the words that
the root leaves. -/
theorem route_of_consult {args : List String} {m : Matches} {r : KeyRequest}
    (h : .consult m r ∈
      ((create project hook).effects files ("key-get" :: args) surroundings).events) :
    ∃ rest state,
      (standardSuite.route (CommandState.fresh rootCommand).values ("key-get" :: args)).2 =
        .ok (operationCommand .keyGet, [], rest) ∧
      keysAlone rest = (state, none) ∧ m = (operationCommand .keyGet).matchesOf state.values ∧
      Dispatch.ofFlags m = .ok r := by
  have proper : (create project hook).suite.IsProper := isProper_standardSuite
  cases outcome : standardSuite.outcome ("key-get" :: args) with
  | error halt =>
    rw [effects_of_outcome_error proper files surroundings outcome] at h
    exact absurd h (consult_not_mem_halted _)
  | ok found =>
    obtain ⟨command, new⟩ := found
    obtain ⟨rest, routed, parsed⟩ := Suite.exists_route_of_outcome outcome
    obtain rfl := Suite.command_of_route find?_keys isOptionLike_keys routed
    obtain ⟨options, -, effects⟩ :=
      effects_of_outcome_ok proper files surroundings outcome rfl
    rw [effects] at h
    obtain ⟨rfl, flags⟩ := consult_of_mem_send h
    exact ⟨rest, new, routed, parsed, rfl, flags⟩

theorem not_takes_of_not_isRootWord {word : String} (h : isRootWord word = false) :
    ¬ standardSuite.context.Takes word := fun takes => by
  rw [takes_root_iff, h] at takes
  cases takes

/-- A value that the hook is asked about as it is was no word of the root. -/
theorem isRootWord_of_consult {m : Matches} {s : String}
    (h : .consult m ⟨none, some s⟩ ∈
      ((create project hook).effects files ["key-get", "--unique-key", s] surroundings).events) :
    isRootWord s = false := by
  by_contra taken
  have taken := (takes_root_iff s).2 (by simpa using taken)
  obtain ⟨rest, state, routed, parsed, rfl, flags⟩ := route_of_consult h
  have untaken := not_takes_of_not_isRootWord (by decide : isRootWord "--unique-key" = false)
  rcases Suite.route_singleton find?_keys isOptionLike_keys rfl (by decide) untaken
    (CommandState.fresh rootCommand).values s with ⟨halt, halted⟩ | ⟨left, whole, short⟩
  · rw [halted] at routed
    cases routed
  · rw [whole] at routed
    cases routed
    cases left with
    | none => exact keysAlone_missing (congrArg Prod.snd parsed)
    | some t =>
      -- the command reads the value from what is left, which is too short to be the whole word
      obtain ⟨state', parsed', flags'⟩ := keysAlone_uniqueKey t
      obtain rfl : state' = state := congrArg Prod.fst (parsed'.symm.trans parsed)
      have same : t = s := by
        rw [flags] at flags'
        cases flags'
        rfl
      have shorter := (short t rfl).2 taken
      exact absurd shorter (same ▸ Nat.lt_irrefl _)

end

theorem consult_mem_dispatched (program : Program) (files : Files.Tree) (config : Config)
    {m : Matches} {r : KeyRequest} (flags : Dispatch.ofFlags m = .ok r)
    (transport : Http.Transport) :
    .consult m r ∈ (program.dispatched files config m transport).events := by
  have asked : .consult m r ∈
      (Dispatch.run (clientOf config.client) program.hook transport m).1 :=
    Dispatch.consult_mem_run_iff.2 ⟨rfl, flags⟩
  exact List.mem_append_right _ (List.mem_cons_of_mem _ (List.mem_cons_of_mem _
    (List.mem_cons_of_mem _ asked)))

/-- **The program and the command on its own.**  If no word before `--` is one of the root, a
command line for keys gives the dispatcher exactly the matches that the command for keys makes of it
on its own, or is halted if the command objects to it.  Whatever the words are, the hook is asked
about nothing but what the command makes on its own of the words that the root leaves.  So a value
of `--unique-key`, which the command on its own always takes, is what the hook is asked about
exactly if it is no word of the root. -/
theorem keys_alone {project : Config.Project} {files : Files.Tree} {config : Config}
    (resolved : Config.resolve project files ⟨.undefined, .undefined⟩ = .ok config) (hook : Hook)
    (surroundings : Surroundings) :
    let effects := fun args => (create project hook).effects files ("key-get" :: args) surroundings
    let matchesOf := fun state : CommandState => (operationCommand .keyGet).matchesOf state.values
    (∀ args, (∀ word ∈ args.takeWhile (· ≠ "--"), isRootWord word = false) →
      match keysAlone args with
      | (state, none) => effects args =
          (create project hook).dispatched files config (matchesOf state) surroundings.transport
      | (_, some _) => ∃ halt, effects args = halted files halt) ∧
    (∀ args m r, .consult m r ∈ (effects args).events →
      ∃ rest state,
        (standardSuite.route (CommandState.fresh rootCommand).values ("key-get" :: args)).2 =
          .ok (operationCommand .keyGet, [], rest) ∧
        keysAlone rest = (state, none) ∧ m = matchesOf state ∧ Dispatch.ofFlags m = .ok r) ∧
    ∀ s, (keysAlone ["--unique-key", s]).2 = none ∧
      ((∃ m, .consult m ⟨none, some s⟩ ∈ (effects ["--unique-key", s]).events) ↔
        isRootWord s = false) := by
  intro effects matchesOf
  have agree : ∀ args, (∀ word ∈ args.takeWhile (· ≠ "--"), isRootWord word = false) →
      match keysAlone args with
      | (state, none) => effects args =
          (create project hook).dispatched files config (matchesOf state) surroundings.transport
      | (_, some _) => ∃ halt, effects args = halted files halt :=
    fun args plain => effects_of_ignores resolved fun word mem =>
      not_takes_of_not_isRootWord (plain word mem)
  refine ⟨agree, fun args m r asked => route_of_consult asked, fun s => ?_⟩
  obtain ⟨state, parsed, flags⟩ := keysAlone_uniqueKey s
  refine ⟨congrArg Prod.snd parsed, fun ⟨m, asked⟩ => isRootWord_of_consult asked, fun plain => ?_⟩
  have all : ∀ word ∈ ["--unique-key", s], isRootWord word = false :=
    List.forall_mem_cons.2 ⟨by decide, List.forall_mem_singleton.2 plain⟩
  have given := agree ["--unique-key", s] fun word mem =>
    all word ((List.takeWhile_prefix _).subset mem)
  rw [parsed] at given
  dsimp only at given
  refine ⟨matchesOf state, ?_⟩
  rw [given]
  exact consult_mem_dispatched _ _ _ flags _

/-- A value that looks like an option of the command arrives; one that looks like an option of the
root does not. -/
theorem keys_alone_option_like :
    let project : Config.Project := ⟨[], "/"⟩
    let surroundings : Surroundings := ⟨⟨[], []⟩, Http.offline⟩
    let events := fun s => ((create project Hook.acceptAll).effects .empty
      ["key-get", "--unique-key", s] surroundings).events
    Config.resolve project .empty ⟨.undefined, .undefined⟩ = .ok Config.default ∧
      (∃ m, .consult m ⟨none, some "--key"⟩ ∈ events "--key") ∧
      ¬ ∃ m, .consult m ⟨none, some "-vabc"⟩ ∈ events "-vabc" := by
  intro project surroundings events
  have resolved : Config.resolve project .empty ⟨.undefined, .undefined⟩ = .ok Config.default := rfl
  have values := (keys_alone resolved Hook.acceptAll surroundings).2.2
  refine ⟨resolved, (values "--key").2.2 (by decide), fun arrives => ?_⟩
  have plain : isRootWord "-vabc" = false := (values "-vabc").2.1 arrives
  exact absurd plain (by decide)

end Program

end KeyClient
