import KeyClient.Program.Series
import KeyClient.Proofs.CommandLine.Fresh

/-!
# Histories of invocations

What a program does at an invocation does not depend on the invocations before it
(`Program.call_after`): its options start afresh, so only the files and the threshold of the
console carry over, and of what is seen the threshold shows on the error output only.
-/

namespace KeyClient

open KeyClient.CommandLine

/-! ## What the threshold shows -/

namespace Console

/-- What is logged does not go to the output. -/
theorem output_logged (mode : ConsoleMode) (console : Console) (entry : Log.Entry) :
    (console.logged mode entry).output = console.output := by
  unfold logged
  split <;> rfl

/-- The output is the same whatever the threshold and the error output are. -/
theorem output_step_congr (mode : ConsoleMode) {console other : Console}
    (h : console.output = other.output) (event : Event) :
    (console.step mode event).output = (other.step mode event).output := by
  cases event with
  | log entry => exact (output_logged _ _ _).trans (h.trans (output_logged _ _ _).symm)
  | output style text => exact congrArg (· ++ Log.paint mode.colors style text) h
  | report text =>
    unfold Console.step
    dsimp only
    split
    · exact congrArg (· ++ text ++ "\n") h
    · exact h
  | _ => exact h

theorem output_run_congr (mode : ConsoleMode) {console other : Console}
    (h : console.output = other.output) (events : List Event) :
    (console.run mode events).output = (other.run mode events).output := by
  induction events generalizing console other with
  | nil => exact h
  | cons event rest ih => exact ih (output_step_congr mode h event)

end Console

/-- Two invocations do the same: to the same events, files and result. -/
structure Invocation.Alike (invocation other : Invocation) : Prop where
  events : invocation.events = other.events
  files : invocation.state.files = other.state.files
  result : invocation.result = other.result

namespace Program

/-! ## One invocation -/

section

variable {program : Program}

theorem globalValue_congr {options others : SuiteState} (root : options.root = others.root)
    (command : CommandState) (spec : OptionSpec) :
    globalValue options command spec = globalValue others command spec := by
  rw [globalValue, globalValue, root]

/-- Sending depends on the options that every command has. -/
theorem send_congr {options others : SuiteState} {command command' : CommandState}
    (h : ∀ spec ∈ [baseUrlOption, timeoutOption, verboseOption],
      globalValue options command spec = globalValue others command' spec)
    (operation : Operation) (files : Files.Tree) (m : Matches) (transport : Http.Transport) :
    program.send operation files options command m transport =
      program.send operation files others command' m transport := by
  simp only [List.forall_mem_cons] at h
  obtain ⟨baseUrl, timeout, verbose, -⟩ := h
  simp only [send, overrides, thresholdOf, baseUrl, timeout, verbose]

/-- Carrying out a command depends on the states of the root and of the command. -/
theorem carryOut_congr {options others : SuiteState} {command : Command}
    (root : options.root = others.root) (own : options.find command = others.find command)
    (task : Task) (files : Files.Tree) (surroundings : Surroundings) :
    (program.carryOut task command files options surroundings).1 =
      (program.carryOut task command files others surroundings).1 := by
  cases task with
  | setUp =>
    unfold carryOut
    rw [own]
  | «show» =>
    unfold carryOut overrides globalValue
    rw [own, root]
  | send operation =>
    unfold carryOut
    dsimp only
    rw [own]
    exact send_congr (fun spec _ => globalValue_congr root _ spec) _ _ _ _

/-- A command line does the same from all settled states. -/
theorem invoke_alike (proper : program.suite.IsProper) {options others : SuiteState}
    (h : options.IsSettled program.suite) (h' : others.IsSettled program.suite)
    (files : Files.Tree) (args : List String) (surroundings : Surroundings) :
    (program.invoke ⟨files, options⟩ args surroundings).Alike
      (program.invoke ⟨files, others⟩ args surroundings) := by
  obtain ⟨result, leaves⟩ := proper.outcome_eq h args
  obtain ⟨result', leaves'⟩ := proper.outcome_eq h' args
  unfold invoke
  dsimp only
  generalize program.suite.parse options args = parsed at *
  generalize program.suite.parse others args = parsed' at *
  obtain ⟨left, _⟩ := parsed
  obtain ⟨left', _⟩ := parsed'
  dsimp only at result result'
  subst result result'
  cases outcome : program.suite.outcome args with
  | error halt => exact ⟨rfl, rfl, rfl⟩
  | ok found =>
    obtain ⟨command, new⟩ := found
    have root : left.root = left'.root := leaves.root.trans leaves'.root.symm
    have own : left.find command = left'.find command :=
      (leaves.command _ _ outcome).2.1.trans (leaves'.command _ _ outcome).2.1.symm
    dsimp only [Except.map]
    cases Task.ofName? command.name with
    | none => exact ⟨rfl, rfl, rfl⟩
    | some task =>
      have effects : (program.carryOut task command files left surroundings).1 =
          (program.carryOut task command files left' surroundings).1 :=
        carryOut_congr root own task files surroundings
      exact ⟨congrArg Effects.events effects, congrArg Effects.files effects,
        congrArg Effects.result effects⟩

/-- Carrying out a command leaves settled states. -/
theorem isSettled_carryOut (proper : program.suite.IsProper) {options : SuiteState}
    (h : options.IsSettled program.suite) {command : Command}
    (mem : command ∈ program.suite.commands)
    (saved : (options.find command).saved = some (CommandState.fresh command).values)
    (task : Task) (files : Files.Tree) (surroundings : Surroundings) :
    (program.carryOut task command files options surroundings).2.IsSettled program.suite := by
  cases task with
  | setUp => exact h
  | «show» => exact h
  | send operation => exact proper.update h mem (.inr saved)

/-- An invocation leaves settled states. -/
theorem isSettled_invoke (proper : program.suite.IsProper) {state : ProgramState}
    (h : state.options.IsSettled program.suite) (args : List String)
    (surroundings : Surroundings) :
    (program.invoke state args surroundings).state.options.IsSettled program.suite := by
  obtain ⟨result, leaves⟩ := proper.outcome_eq h args
  unfold invoke
  generalize program.suite.parse state.options args = parsed at *
  obtain ⟨left, _⟩ := parsed
  dsimp only at result
  subst result
  cases outcome : program.suite.outcome args with
  | error halt => exact leaves.settled
  | ok found =>
    obtain ⟨command, new⟩ := found
    obtain ⟨mem, found, saved⟩ := leaves.command _ _ outcome
    dsimp only [Except.map]
    cases Task.ofName? command.name with
    | none => exact leaves.settled
    | some task =>
      exact isSettled_carryOut proper leaves.settled mem (by rw [found, saved]) _ _ _

/-- Invocations leave settled states. -/
theorem isSettled_after (proper : program.suite.IsProper) (mode : ConsoleMode)
    (standing : Standing) (h : standing.state.options.IsSettled program.suite)
    (calls : List Call) :
    (program.after mode standing calls).state.options.IsSettled program.suite := by
  induction calls generalizing standing with
  | nil => exact h
  | cons call rest ih => exact ih _ (isSettled_invoke proper h call.args call.surroundings)

end

/-! ## Histories -/

/-- The suite of every program is proper. -/
theorem isProper_standardSuite : standardSuite.IsProper where
  root := by decide +kernel
  commands := by decide +kernel
  names := by decide

/-- **Histories do not count.**  After any invocations, an invocation does what it does on a new
program that is started on the files as they are then: the same events (requests and reports among
them) to the same result and the same files, and the same output whatever the threshold of the new
program's console is.  With the threshold that was left, the error output is the same too. -/
theorem call_after (project : Config.Project) (hook : Hook) (mode : ConsoleMode)
    (files : Files.Tree) (threshold : Threshold) (calls : List Call) (call : Call) :
    let program := create project hook
    let standing := program.after mode ⟨program.fresh files, threshold⟩ calls
    let (invocation, console) := program.call mode standing call
    let anew := fun threshold =>
      program.call mode ⟨program.fresh standing.state.files, threshold⟩ call
    (∀ threshold, invocation.Alike (anew threshold).1 ∧
      console.output = (anew threshold).2.output) ∧
      console = (anew standing.threshold).2 := by
  intro program standing
  have proper : program.suite.IsProper := isProper_standardSuite
  have start : (program.fresh files).options.IsSettled program.suite := proper.isSettled_fresh
  have settled := isSettled_after proper mode ⟨program.fresh files, threshold⟩ start calls
  have alike := invoke_alike proper settled proper.isSettled_fresh standing.state.files call.args
    call.surroundings
  refine ⟨fun threshold => ⟨alike, ?_⟩, ?_⟩
  · have output : (Console.blank standing.threshold).output = (Console.blank threshold).output :=
      rfl
    exact (Console.output_run_congr mode output _).trans
      (congrArg (fun events => (Console.run mode (.blank threshold) events).output) alike.events)
  · exact congrArg (Console.run mode (.blank standing.threshold)) alike.events

end Program

end KeyClient
