import KeyClient.CommandLine.Suite
import KeyClient.Operation

/-!
# Commands of the program

The commands with their options: one sets a project up, one shows its configuration, and there is
one for every operation of the server.
-/

namespace KeyClient

open KeyClient.CommandLine

/-- The commands of the program. -/
inductive Task where
  | setUp
  | show
  | send (operation : Operation)
deriving DecidableEq, Repr

namespace Task

/-- All commands. -/
def all : List Task := [setUp, .show] ++ Operation.all.map send

/-- The name of a command. -/
def name : Task → String
  | setUp => "init"
  | .show => "config"
  | send operation => operation.name

/-- The command with a name. -/
def ofName? (name : String) : Option Task := all.find? (·.name == name)

end Task

namespace Program

/-- An option that is declared without mistakes. -/
def option (flags short long help : String) (reader : Option Reader) : OptionSpec :=
  ⟨flags, ⟨if short = "" then none else some short, if long = "" then none else some long⟩, help,
    .undefined, .undefined, none, reader, false, false⟩

/-! ## Options of every command -/

/-- Where requests are sent. -/
def baseUrlOption : OptionSpec :=
  option "--base-url <url>" "" "--base-url" "Server base URL (overrides config)" none

/-- How long answers are waited for. -/
def timeoutOption : OptionSpec :=
  option "--timeout <ms>" "" "--timeout" "Request timeout in milliseconds (overrides config)"
    (some .timeout)

/-- Whether everything is logged. -/
def verboseOption : OptionSpec :=
  option "-v, --verbose" "-v" "--verbose" "Enable debug logging" none

/-- The request for the version. -/
def versionOption : OptionSpec :=
  option "-V, --version" "-V" "--version" "output the version number" none

/-- The version of the program. -/
def version : String := "0.1.0"

/-- The root command. -/
def rootCommand : Command where
  name := "key-cli"
  description := "Command-line client for the key API"
  options := [baseUrlOption, timeoutOption, verboseOption]

/-! ## Commands -/

/-- Whether an old configuration is overwritten. -/
def forceOption : OptionSpec :=
  option "-f, --force" "-f" "--force" "Overwrite existing configuration" none

/-- Whether nothing is asked. -/
def yesOption : OptionSpec :=
  option "-y, --yes" "-y" "--yes" "Accept defaults without prompting" none

/-- The command that sets a project up. -/
def setupCommand : Command where
  name := Task.setUp.name
  description := "Create a key-cli configuration in the current directory"
  options := [forceOption, yesOption]

/-- Whether only the place of the file is shown. -/
def pathOption : OptionSpec :=
  option "-p, --path" "-p" "--path" "Show config file path only" none

/-- The command that shows the configuration. -/
def showCommand : Command where
  name := Task.show.name
  description := "Show the effective configuration"
  options := [pathOption]

/-- The option for a flag of an operation. -/
def flagOption (flag : Flag) : OptionSpec :=
  option s!"--{flag.name} <{flag.kind.name}>" "" s!"--{flag.name}" flag.help
    (match flag.kind with
    | .boolean => some .boolean
    | .string => none)

/-- The command that carries out an operation. -/
def operationCommand (operation : Operation) : Command where
  name := operation.name
  description := operation.about
  options := operation.flags.map flagOption

/-- The command that carries out the operation with a name. -/
def commandFor (name : String) : Except Failure Command :=
  match Operation.ofName? name with
  | some operation => .ok (operationCommand operation)
  | none => .error (.other "Error" (Operation.unknown name))

/-- A command with options that were added later. -/
def extend (command : Command) (extras : List OptionSpec) : Except Failure Command :=
  extras.foldlM Command.addOption command

/-- The command line of the program, whose command for keys is given. -/
def suiteWith (keyCommand : Command) : Suite where
  root := rootCommand
  versionOption := versionOption
  version := version
  commands := [setupCommand, showCommand, keyCommand]

/-- The command line of the program. -/
def standardSuite : Suite := suiteWith (operationCommand .keyGet)

end Program

end KeyClient
