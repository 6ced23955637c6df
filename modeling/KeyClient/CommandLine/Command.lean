import KeyClient.CommandLine.Spec
import KeyClient.Matches

/-!
# Commands

A command has a name, a description and options, no two of which share a spelling.  Its state is
the values of its options: as declared at first, then as the last command line left them.  Every
command line starts from the values that the command had before its first one.  Commands follow those of
commander 13.1.0.
-/

namespace KeyClient.CommandLine

/-- A command with its options in the order of their declaration. -/
structure Command where
  name : String
  description : String
  options : List OptionSpec
deriving Repr

namespace Command

/-- The command without options. -/
def named (name description : String) : Command := ⟨name, description, []⟩

/-- The option with a spelling. -/
def find? (command : Command) (spelling : String) : Option OptionSpec :=
  command.options.find? (·.hasSpelling spelling)

/-- The spelling of a new option that an old one has already, and the old one. -/
def conflict? (command : Command) (spec : OptionSpec) : Option (String × OptionSpec) :=
  let byLong := spec.spellings.long.bind fun long => (command.find? long).map (long, ·)
  let byShort := spec.spellings.short.bind fun short => (command.find? short).map (short, ·)
  match byShort, byLong with
  | some (_, old), some (long, _) => some (long, old)
  | some conflict, none => some conflict
  | none, conflict => conflict

/-- What is said about an option that cannot be added. -/
def conflictMessage (command : Command) (spec old : OptionSpec) (spelling : String) : String :=
  let place := if command.name = "" then "" else s!" to command '{command.name}'"
  s!"Cannot add option '{spec.flags}'{place} due to conflicting flag '{spelling}'\n" ++
    s!"-  already used by option '{old.flags}'"

/-- The failure of declaring an option whose name has hyphens with nothing behind them. -/
def misnamed : Failure :=
  .other "TypeError" "Cannot read properties of undefined (reading 'toUpperCase')"

/-- The command with one more option. -/
def addOption (command : Command) (spec : OptionSpec) : Except Failure Command :=
  match command.conflict? spec with
  | some (spelling, old) => .error (.other "Error" (command.conflictMessage spec old spelling))
  | none =>
    if spec.isMisnamed then .error misnamed
    else .ok { command with options := command.options ++ [spec] }

/-- The value that an option has before any command line, with whose default it is; `earlier` are
the options declared before it.  What switches something off that an option switches on, be it
the same one, has none. -/
def initial? (earlier : List OptionSpec) (spec : OptionSpec) :
    Option (Value × Option String) :=
  if spec.isNegated then
    let positive := "--" ++ OptionSpec.bare 5 (spec.spellings.long.getD "")
    if (spec :: earlier).any (·.hasSpelling positive) then none
    else
      match spec.default with
      | .undefined => some (.bool true, none)
      | v => some (v, some spec.flags)
  else
    match spec.default with
    | .undefined => none
    | v => some (v, some spec.flags)

/-- The values of options before any command line. -/
def initialValues (earlier : List OptionSpec) (values : OptionValues) :
    List OptionSpec → OptionValues
  | [] => values
  | spec :: rest =>
    let values :=
      match initial? earlier spec with
      | some (v, origin) => values.set spec.slot v origin
      | none => values
    initialValues (earlier ++ [spec]) values rest

/-- The matches that the slots of the options make; those that hold nothing are left out. -/
def matchesOf (command : Command) (values : OptionValues) : Matches :=
  command.options.foldl (fun m spec =>
    let setting := (values.get spec.slot).setting
    if setting.isMissing then m else m.insert spec.matchName setting) Matches.empty

/-- The values with every option put back to its declared default. -/
def resetValues (command : Command) (values : OptionValues) : OptionValues :=
  command.options.foldl (fun values spec =>
    values.set spec.slot spec.default (some spec.flags)) values

end Command

/-! ## States -/

/-- The values of a command's options, and those before its first command line. -/
structure CommandState where
  values : OptionValues
  saved : Option OptionValues
deriving Repr

namespace CommandState

/-- The state before any command line. -/
def fresh (command : Command) : CommandState :=
  ⟨Command.initialValues [] .empty command.options, none⟩

/-- The state at the start of a command line: the first one saves a copy of the values, later ones
go back to it. -/
def prepare (state : CommandState) : CommandState :=
  match state.saved with
  | none => { state with saved := some state.values.copy }
  | some saved => { state with values := saved }

/-- The state with other values. -/
def withValues (state : CommandState) (values : OptionValues) : CommandState :=
  { state with values := values }

/-- The matches of the command, and the state with every option put back to its default. -/
def take (command : Command) (state : CommandState) : Matches × CommandState :=
  (command.matchesOf state.values, state.withValues (command.resetValues state.values))

end CommandState

end KeyClient.CommandLine
