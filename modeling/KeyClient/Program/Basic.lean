import KeyClient.Dispatch
import KeyClient.Program.Commands
import KeyClient.Program.Setup
import KeyClient.Program.Show

/-!
# The program

An invocation of the program starts from the files and from the option values that earlier
invocations left; `Program.invoke` gives its events, what it leaves, and the failure that ended
it, if one did.
-/

namespace KeyClient

open KeyClient.CommandLine

/-- A program: the project it works on, its command line and its hook. -/
structure Program where
  project : Config.Project
  suite : Suite
  hook : Hook

/-- What one invocation leaves for the next. -/
structure ProgramState where
  files : Files.Tree
  options : SuiteState

/-- What the user and the network add to an invocation. -/
structure Surroundings where
  answers : Answers
  transport : Http.Transport

/-- What an invocation did. -/
structure Invocation where
  events : List Event
  state : ProgramState
  result : Except Failure Unit

namespace Program

/-- The program for a project, with a hook and without further options. -/
def create (project : Config.Project) (hook : Hook) : Program := ⟨project, standardSuite, hook⟩

/-- The state before any invocation. -/
def fresh (program : Program) (files : Files.Tree) : ProgramState := ⟨files, program.suite.fresh⟩

/-- The value of an option of a command or, with precedence, of the root. -/
def globalValue (options : SuiteState) (command : CommandState) (spec : OptionSpec) : Value :=
  ((options.root.values.own? spec.slot).or (command.values.own? spec.slot)).getD .undefined

/-- The values that an invocation sets in place of stored ones. -/
def overrides (options : SuiteState) (command : CommandState) : Config.Overrides where
  baseUrl := globalValue options command baseUrlOption
  timeoutMs := globalValue options command timeoutOption

/-- Whether an option of a command was given. -/
def isGiven (command : CommandState) (spec : OptionSpec) : Bool :=
  ((command.values.get spec.slot).setting.value?.map Value.isTruthy).getD true

/-- The threshold of an invocation: with the option for it, everything is logged. -/
def thresholdOf (options : SuiteState) (command : CommandState) (config : Config) : Threshold :=
  let isVerbose := (globalValue options command verboseOption).isTruthy
  .ofLevel (if isVerbose then .debug else config.logLevel)

/-- The client for a configuration. -/
def clientOf (config : ClientConfig) : Client :=
  .ofAddress config.baseUrl (some (.integer config.timeoutMs))

/-- What is logged before a request is dispatched. -/
def dispatchEntry (operation : Operation) (config : Config) : Log.Entry :=
  .debug s!"Dispatching {operation.name} to {config.client.baseUrl}" []

/-- Send the request that the matches describe. -/
def send (program : Program) (operation : Operation) (files : Files.Tree) (options : SuiteState)
    (command : CommandState) (m : Matches) (transport : Http.Transport) : Effects :=
  .after ((Config.loadEntries program.project files).map .log) <|
    match Config.resolve program.project files (overrides options command) with
    | .error error => .failed files [] (.app error.toError)
    | .ok config =>
      let (events, result) := Dispatch.run (clientOf config.client) program.hook transport m
      ⟨.setThreshold (thresholdOf options command config) ::
          .log (dispatchEntry operation config) :: .client config :: events,
        files, result⟩

/-- Carry out a command, by the states of all commands. -/
def carryOut (program : Program) (task : Task) (command : Command) (files : Files.Tree)
    (options : SuiteState) (surroundings : Surroundings) : Effects × SuiteState :=
  let state := options.find command
  match task with
  | .setUp =>
    (Setup.run program.project files ⟨isGiven state forceOption, isGiven state yesOption⟩
      surroundings.answers, options)
  | .show =>
    (Show.run program.project files (isGiven state pathOption) (overrides options state), options)
  | .send operation =>
    let (m, taken) := state.take command
    let options := options.update command.name taken
    (program.send operation files options taken m surroundings.transport, options)

/-- What is written about a command line that is not carried out: what was asked for goes to the
output, all else to the error output. -/
def haltEvent (halt : Halt) : Event :=
  if halt.error.exitCode = 0 then .output [] halt.text else .notice [] halt.text

/-- One invocation. -/
def invoke (program : Program) (state : ProgramState) (args : List String)
    (surroundings : Surroundings) : Invocation :=
  match program.suite.parse state.options args with
  | (options, .error halt) =>
    ⟨[haltEvent halt], { state with options := options }, .error (.usage halt.error)⟩
  | (options, .ok command) =>
    match Task.ofName? command.name with
    | none =>
      ⟨[], { state with options := options },
        .error (.other "Error" (Operation.unknown command.name))⟩
    | some task =>
      let (effects, options) :=
        program.carryOut task command state.files options surroundings
      ⟨effects.events, ⟨effects.files, options⟩, effects.result⟩

end Program

end KeyClient
