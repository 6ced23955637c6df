import KeyClient.CommandLine.Flags
import KeyClient.CommandLine.Slots
import KeyClient.Failure
import KeyClient.Text.Capital

/-!
# Options

An option is declared by its flags and may have a default, a value that stands in when none is
given, a list of choices and a reader for its values.  `OptionSpec.receive` says which value an
option has after an occurrence on the command line.  Options behave as those of commander 13.1.0 are
documented to.
-/

namespace KeyClient.CommandLine

/-- How the text of a value is read. -/
inductive Reader where
  | boolean
  | timeout
  /-- Any other way, by the value and what the option has so far. -/
  | custom (read : Value → Setting → Except String Value)

instance : Repr Reader where
  reprPrec
    | .boolean, _ => "boolean"
    | .timeout, _ => "timeout"
    | .custom _, _ => "custom"

/-- A truth value. -/
def parseBoolean (v : Value) : Except String Bool :=
  match v with
  | .string "true" => .ok true
  | .string "false" => .ok false
  | _ => .error "Expected \"true\" or \"false\"."

/-- A positive whole number. -/
def parseTimeout (v : Value) : Except String Number :=
  let n := v.toNumber
  if n.isWhole && (Number.integer 1).le n then .ok n
  else .error "Expected a positive integer (milliseconds)."

/-- A value as the reader takes it, for an option that has something so far. -/
def Reader.read : Reader → Value → Setting → Except String Value
  | boolean, v, _ => (parseBoolean v).map .bool
  | timeout, v, _ => (parseTimeout v).map .number
  | custom read, v, old => read v old

/-- An option as it is declared; an undefined default or stand-in is none.  Options that imply values
of others, take theirs from the environment or exclude others are not among these. -/
structure OptionSpec where
  flags : String
  spellings : Flags
  help : String
  default : Value
  standIn : Value
  choices : Option (List String)
  reader : Option Reader
  mandatory : Bool
  hidden : Bool
deriving Repr

namespace OptionSpec

/-- The option with the given flags and nothing else. -/
def ofFlags (flags help : String) : Except FlagsError OptionSpec :=
  (Flags.parse? flags).map fun spellings =>
    ⟨flags, spellings, help, .undefined, .undefined, none, none, false, false⟩

/-- Whether a value must be given. -/
def isRequired (spec : OptionSpec) : Bool := spec.flags.toList.contains '<'

/-- Whether a value may be given. -/
def isOptional (spec : OptionSpec) : Bool := spec.flags.toList.contains '['

/-- Whether the character may stand before the dots of a repeated value. -/
def isWordChar (c : Char) : Bool := c.isAlphanum || c == '_'

/-- Whether several values may be given. -/
def isVariadic (spec : OptionSpec) : Bool :=
  match spec.flags.toList.reverse with
  | close :: '.' :: '.' :: '.' :: c :: _ => (close == '>' || close == ']') && isWordChar c
  | _ => false

/-- What a long spelling that switches something off starts with. -/
def negation : List Char := "--no-".toList

/-- Whether the option switches something off. -/
def isNegated (spec : OptionSpec) : Bool :=
  spec.spellings.long.any fun long => negation.isPrefixOf long.toList

/-- Whether the option takes no value and switches something on. -/
def isSwitch (spec : OptionSpec) : Bool :=
  !spec.isRequired && !spec.isOptional && !spec.isNegated

/-- Whether the text is a spelling of the option. -/
def hasSpelling (spec : OptionSpec) (text : String) : Bool :=
  spec.spellings.short == some text || spec.spellings.long == some text

/-- A spelling without its dashes. -/
def bare (dashes : Nat) (spelling : String) : String := String.ofList (spelling.toList.drop dashes)

/-- The name of the option: the longer spelling without dashes. -/
def name (spec : OptionSpec) : String :=
  match spec.spellings.long, spec.spellings.short with
  | some long, _ => bare 2 long
  | none, some short => bare 1 short
  | none, none => ""

/-- Words with hyphens between them as one word with capital letters inside. -/
def joinWords (words : List (List Char)) : List Char :=
  match words with
  | [] => []
  | first :: rest =>
    first ++ rest.flatMap fun word =>
      match word with
      | [] => []
      | c :: cs => Text.capital c ++ cs

/-- The words of the name; those of an option that switches something off name that thing. -/
def words (spec : OptionSpec) : List (List Char) :=
  let name := spec.name.toList
  Text.split (· == '-') (if spec.isNegated then name.drop 3 else name)

/-- Under which name the value of the option is kept. -/
def slot (spec : OptionSpec) : String := String.ofList (joinWords spec.words)

/-- Whether the name has hyphens with nothing behind them, so that it names no slot. -/
def isMisnamed (spec : OptionSpec) : Bool := spec.words.tail.any List.isEmpty

/-- The flag name under which matches list the value. -/
def matchName (spec : OptionSpec) : String :=
  match spec.spellings.long with
  | some long => bare 2 long
  | none => spec.slot

end OptionSpec

/-! ## Values of options -/

/-- What an occurrence of an option brings along. -/
inductive Given where
  | nothing
  | omitted
  | text (s : String)
deriving DecidableEq, Repr

namespace Given

/-- What was given, as a value. -/
def toValue : Given → Value
  | nothing => .undefined
  | omitted => .null
  | text s => .string s

/-- What was given, as it is quoted in messages. -/
def quoted : Given → String
  | nothing => "undefined"
  | omitted => "null"
  | text s => s

end Given

namespace OptionSpec

/-- A value behind those given before; the default does not count as given. -/
def append (spec : OptionSpec) (old : Kept) (v : Value) : Value :=
  match old.setting with
  | .value (.array items) =>
    if old.origin = some spec.flags then .array [v]
    else
      match v with
      | .array more => .array (items ++ more)
      | v => .array (items ++ [v])
  | _ => .array [v]

/-- What stands for an occurrence without a value. -/
def fallback (spec : OptionSpec) : Value :=
  if spec.isNegated then .bool false
  else if spec.isSwitch || spec.isOptional then .bool true
  else .string ""

/-- Whether the value is one of the choices. -/
def isChoice (choices : List String) : Value → Bool
  | .string s => choices.contains s
  | _ => false

/-- A value that is there, as it is read: by the reader, or else as one of the choices. -/
def convert (spec : OptionSpec) (old : Kept) (v : Value) : Except String Value :=
  match spec.reader, spec.choices with
  | some reader, _ => reader.read v old.setting
  | none, some choices =>
    if isChoice choices v then .ok (if spec.isVariadic then spec.append old v else v)
    else .error ("Allowed choices are " ++ ", ".intercalate choices ++ ".")
  | none, none => .ok (if spec.isVariadic then spec.append old v else v)

/-- The value of the option after an occurrence. -/
def receive (spec : OptionSpec) (old : Kept) (given : Given) : Except UsageError Value :=
  let v := given.toValue
  let v :=
    match spec.standIn with
    | .undefined => v
    | standIn => if v.isNullish then standIn else v
  match v with
  | .null => .ok spec.fallback
  | v =>
    match spec.convert old v with
    | .error reason => .error (.invalidArgument spec.flags given.quoted reason)
    | .ok v => .ok (if v.isNullish then spec.fallback else v)

/-- A text that is given is converted, unless a value stands in for it. -/
theorem receive_text {spec : OptionSpec} (plain : spec.standIn = .undefined) (old : Kept)
    (s : String) :
    spec.receive old (.text s) =
      match spec.convert old (.string s) with
      | .error reason => .error (.invalidArgument spec.flags s reason)
      | .ok v => .ok (if v.isNullish then spec.fallback else v) := by
  simp only [receive, plain, Given.toValue, Given.quoted]

end OptionSpec

end KeyClient.CommandLine
