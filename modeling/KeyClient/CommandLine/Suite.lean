import KeyClient.CommandLine.Help
import KeyClient.CommandLine.Scan
import KeyClient.CommandLine.Similar

/-!
# Command lines

A suite is a root command with commands below it.  A command line first goes to the root, which
picks out its own options wherever they stand; the first operand names the command that gets the
rest.  `Command.parse` deals with the arguments of one command, `Suite.parse` with those of a
suite; both end in a `Halt` if there is nothing to carry out.  This is how commander 13.1.0 is
documented to route a command line to its commands.
-/

namespace KeyClient.CommandLine

/-- A command line that is not carried out, with what is written about it. -/
structure Halt where
  error : UsageError
  text : String
deriving DecidableEq, Repr

namespace Halt

/-- An error, written with its message. -/
def ofError (error : UsageError) : Halt := ⟨error, error.message ++ "\n"⟩

/-- Help that was asked for or has to be given. -/
def ofHelp (error : UsageError) (page : Help.Page) : Halt := ⟨error, page.text⟩

end Halt

/-- Whether the argument asks for help. -/
def asksForHelp (arg : String) : Bool := arg == Help.shortFlag || arg == Help.longFlag

/-- The error of an unknown option, with the options that may have been meant. -/
def unknownOption (flag : String) (candidates : List String) : Halt :=
  let isLong := "--".toList.isPrefixOf flag.toList
  .ofError (.unknownOption flag (if isLong then similar flag candidates else []))

/-- What a command belongs to: the name of its parent and the parent's long flags. -/
structure Parent where
  name : String
  longFlags : List String
deriving Repr

namespace Command

/-- The help of a command without commands below it. -/
def page (command : Command) (parent : Option Parent) : Help.Page where
  usage := ((parent.map fun p => p.name ++ " ").getD "") ++ command.name ++ " [options]"
  description := command.description
  options := Help.optionEntries command.options
  commands := []

/-- The first option that must have a value and has none. -/
def missing? (command : Command) (values : OptionValues) : Option OptionSpec :=
  command.options.find? fun spec =>
    spec.mandatory && (values.get spec.slot).setting.isMissing

/-- Why a scanned command line is not carried out, if it is not; `operands` are those that stood
before the scanned arguments. -/
def objection? (command : Command) (parent : Option Parent) (operands : List String)
    (scan : Scan) : Option Halt :=
  let operands := operands ++ scan.operands
  if scan.unknown.any asksForHelp then some (.ofHelp .helpRequested (command.page parent))
  else
    match command.missing? scan.values, scan.unknown with
    | some spec, _ => some (.ofError (.missingOption spec.flags))
    | none, flag :: _ =>
      some (unknownOption flag
        (Help.longFlags command.options ++ (parent.map Parent.longFlags).getD []))
    | none, [] =>
      if operands.isEmpty then none
      else some (.ofError (.excessArguments (parent.map fun _ => command.name) operands.length))

/-- The arguments of a command: the state they leave, and why it is not carried out. -/
def parse (command : Command) (parent : Option Parent) (state : CommandState)
    (operands args : List String) : CommandState × Option Halt :=
  let state := state.prepare
  let (scan, error) := Scan.run (.ofCommand command) (.start state.values) args
  (state.withValues scan.values,
    match error with
    | some error => some (.ofError error)
    | none => command.objection? parent operands scan)

end Command

/-! ## Suites -/

/-- A root command that shows its version on request, and the commands below it. -/
structure Suite where
  root : Command
  versionOption : OptionSpec
  version : String
  commands : List Command
deriving Repr

/-- The states of the commands of a suite, by name. -/
structure SuiteState where
  root : CommandState
  commands : List (String × CommandState)
deriving Repr

namespace Suite

/-- The word that asks for the help of a command. -/
def helpWord : String := "help"

/-- The command with a name. -/
def find? (suite : Suite) (name : String) : Option Command :=
  suite.commands.find? (·.name == name)

/-- The options of the root command, with the one for the version. -/
def options (suite : Suite) : List OptionSpec := suite.versionOption :: suite.root.options

/-- The root command as the parent of the others. -/
def parent (suite : Suite) : Parent := ⟨suite.root.name, Help.longFlags suite.options⟩

/-- The entry of a command in the help of the root. -/
def commandEntry (command : Command) : Help.Entry :=
  ⟨command.name ++ (if command.options.isEmpty then "" else " [options]"), command.description⟩

/-- The help of the root command. -/
def page (suite : Suite) : Help.Page where
  usage := suite.root.name ++ " [options] [command]"
  description := suite.root.description
  options := Help.optionEntries suite.options
  commands := suite.commands.map commandEntry ++ [⟨helpWord ++ " [command]", Help.about⟩]

/-- The state before any command line. -/
def fresh (suite : Suite) : SuiteState :=
  ⟨.fresh suite.root, suite.commands.map fun command => (command.name, .fresh command)⟩

/-- The help that the help word asks for. -/
def help (suite : Suite) (operands : List String) : Halt :=
  match operands with
  | [] | "" :: _ => .ofHelp (.helpShown false) suite.page
  | name :: _ =>
    match suite.find? name with
    | some command => .ofHelp (.helpShown false) (command.page (some suite.parent))
    | none => .ofHelp (.helpShown true) suite.page

/-- Why a command line that names no command is not carried out. -/
def objection (suite : Suite) (operands unknown : List String) : Halt :=
  if unknown.any asksForHelp then .ofHelp .helpRequested suite.page
  else
    match operands, unknown with
    | name :: _, _ =>
      .ofError (.unknownCommand name
        (similar name (suite.commands.map Command.name ++ [helpWord])))
    | [], flag :: _ => unknownOption flag (Help.longFlags suite.options)
    | [], [] => .ofHelp (.helpShown true) suite.page

end Suite

namespace SuiteState

/-- The state of a command. -/
def find (state : SuiteState) (command : Command) : CommandState :=
  (state.commands.lookup command.name).getD (.fresh command)

/-- The states with another one for a command. -/
def update (state : SuiteState) (name : String) (new : CommandState) : SuiteState :=
  { state with
    commands := state.commands.map fun (n, old) => if n = name then (n, new) else (n, old) }

end SuiteState

/-- A command line for a suite: the states it leaves, and the command to be carried out. -/
def Suite.parse (suite : Suite) (state : SuiteState) (args : List String) :
    SuiteState × Except Halt Command :=
  let prepared := state.root.prepare
  let (scan, error) :=
    Scan.run ⟨suite.root, some (suite.versionOption, suite.version)⟩ (.start prepared.values) args
  let state := { state with root := prepared.withValues scan.values }
  match error with
  | some error => (state, .error (.ofError error))
  | none =>
    match scan.operands with
    | [] => (state, .error (suite.objection [] scan.unknown))
    | name :: rest =>
      match suite.find? name with
      | some command =>
        let (new, halt) := command.parse (some suite.parent) (state.find command) rest scan.unknown
        (state.update command.name new,
          match halt with
          | some halt => .error halt
          | none => .ok command)
      | none =>
        if name = Suite.helpWord then (state, .error (suite.help rest))
        else (state, .error (suite.objection (name :: rest) scan.unknown))

end KeyClient.CommandLine
