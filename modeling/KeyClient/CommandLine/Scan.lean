import KeyClient.CommandLine.Command

/-!
# Scanning arguments

The options of a command are picked out of its arguments from left to right.  What is no option
of the command is an operand or, from the first unknown option on, left to whoever knows it.
`Scan.step` deals with one argument, `Scan.run` with all of them, in the way documented for
commander 13.1.0.
-/

namespace KeyClient.CommandLine

/-- What has been found so far; `repeated` is the option that the next words are values of. -/
structure Scan where
  values : OptionValues
  operands : List String
  unknown : List String
  beyond : Bool
  repeated : Option OptionSpec
deriving Repr

namespace Scan

/-- Nothing found yet. -/
def start (values : OptionValues) : Scan := ⟨values, [], [], false, none⟩

/-- Whether the argument looks like an option. -/
def isOptionLike (arg : String) : Bool :=
  match arg.toList with
  | '-' :: _ :: _ => true
  | _ => false

/-- Set aside arguments that are no options of the command. -/
def setAside (scan : Scan) (args : List String) : Scan :=
  if scan.beyond then { scan with unknown := scan.unknown ++ args }
  else { scan with operands := scan.operands ++ args }

/-- The arguments after those scanned: an error ends the scan. -/
abbrev Outcome := Scan × Option UsageError

/-- An occurrence of one option: set its value. -/
def store (spec : OptionSpec) (given : Given) (scan : Scan) : Outcome :=
  match spec.receive (scan.values.get spec.slot) given with
  | .ok v => ({ scan with values := scan.values.set spec.slot v none }, none)
  | .error error => (scan, some error)

/-- An occurrence of an option counts for all options of its name. -/
def storeAll (given : Given) (scan : Scan) : List OptionSpec → Outcome
  | [] => (scan, none)
  | spec :: rest =>
    match store spec given scan with
    | (scan, none) => storeAll given scan rest
    | (scan, some error) => (scan, some error)

/-- What is to be done when an option occurs: its value is set, or the version is shown. -/
structure Context where
  command : Command
  version : Option (OptionSpec × String)
deriving Repr

namespace Context

/-- A command whose options all have values. -/
def ofCommand (command : Command) : Context := ⟨command, none⟩

/-- The option with a spelling. -/
def find? (context : Context) (spelling : String) : Option OptionSpec :=
  match context.version with
  | some (spec, _) =>
    if spec.hasSpelling spelling then some spec else context.command.find? spelling
  | none => context.command.find? spelling

/-- An occurrence of an option. -/
def occur (context : Context) (spec : OptionSpec) (given : Given) (scan : Scan) : Outcome :=
  match context.version with
  | some (option, text) =>
    if option.name = spec.name then (scan, some (.version text))
    else storeAll given scan (context.command.options.filter fun other => other.name == spec.name)
  | none =>
    storeAll given scan (context.command.options.filter fun other => other.name == spec.name)

end Context

/-- How the scan goes on after one argument. -/
inductive Move where
  /-- With the next argument. -/
  | next (scan : Scan)
  /-- With the argument after the next. -/
  | skip (scan : Scan)
  /-- With the rest of a group of options behind one dash. -/
  | regroup (scan : Scan)
  /-- Not at all. -/
  | stop (scan : Scan) (error : Option UsageError)
deriving Repr

/-- Go on after an occurrence, unless it was in error. -/
def Move.after (move : Scan → Move) : Outcome → Move
  | (scan, none) => move scan
  | (scan, some error) => .stop scan (some error)

/-- An option that stands alone, perhaps with its value behind it. -/
def whole (context : Context) (spec : OptionSpec) (rest : List String) (scan : Scan) : Move :=
  let done (scan : Scan) : Scan :=
    { scan with repeated := if spec.isVariadic then some spec else none }
  if spec.isRequired then
    match rest with
    | [] => .stop scan (some (.missingArgument spec.flags))
    | value :: _ => .after (fun s => .skip (done s)) (context.occur spec (.text value) scan)
  else if spec.isOptional then
    match rest with
    | value :: _ =>
      if isOptionLike value then .after (fun s => .next (done s)) (context.occur spec .omitted scan)
      else .after (fun s => .skip (done s)) (context.occur spec (.text value) scan)
    | [] => .after (fun s => .next (done s)) (context.occur spec .omitted scan)
  else .after (fun s => .next (done s)) (context.occur spec .nothing scan)

/-- The first option of a group behind one dash, and whether the rest of the group is its value. -/
def group? (context : Context) (arg : String) : Option (OptionSpec × String × Bool) :=
  match arg.toList with
  | '-' :: c :: d :: rest =>
    if c = '-' then none
    else
      (context.find? (String.ofList ['-', c])).map fun spec =>
        (spec, String.ofList (d :: rest), spec.isRequired || spec.isOptional)
  | _ => none

/-- A long option with its value behind an equals sign. -/
def assignment? (context : Context) (arg : String) : Option (OptionSpec × String) :=
  match arg.toList with
  | '-' :: '-' :: c :: cs =>
    if c = '=' then none
    else
      match Text.cut (· == '=') (c :: cs) with
      | (name, some value) =>
        ((context.find? (String.ofList ('-' :: '-' :: name))).filter fun spec =>
          spec.isRequired || spec.isOptional).map fun spec => (spec, String.ofList value)
      | _ => none
  | _ => none

/-- An argument that is no option of the command. -/
def other (arg : String) (scan : Scan) : Scan :=
  setAside { scan with beyond := scan.beyond || isOptionLike arg } [arg]

/-- One argument, by the arguments behind it. -/
def step (context : Context) (scan : Scan) (arg : String) (rest : List String) : Move :=
  if arg = "--" then
    let scan := if scan.beyond then scan.setAside [arg] else scan
    .stop (scan.setAside rest) none
  else
    match if isOptionLike arg then none else scan.repeated with
    | some spec => .after .next (context.occur spec (.text arg) scan)
    | none =>
      let scan := { scan with repeated := none }
      match if isOptionLike arg then context.find? arg else none with
      | some spec => whole context spec rest scan
      | none =>
        match group? context arg with
        | some (spec, value, true) => .after .next (context.occur spec (.text value) scan)
        | some (spec, _, false) => .after .regroup (context.occur spec .nothing scan)
        | none =>
          match assignment? context arg with
          | some (spec, value) => .after .next (context.occur spec (.text value) scan)
          | none => .next (scan.other arg)

/-- The argument for the rest of a group of options behind one dash. -/
def restOfGroup (arg : String) : String := String.ofList ('-' :: arg.toList.drop 2)

theorem length_restOfGroup {arg : String} (h : 2 < arg.length) :
    (restOfGroup arg).length < arg.length := by
  have := String.length_toList (s := arg)
  simp only [restOfGroup, String.length_ofList, List.length_cons, List.length_drop]
  omega

/-- The number of characters of arguments, each counted with one more. -/
def weight : List String → Nat
  | [] => 0
  | arg :: rest => arg.length + 1 + weight rest

/-- All arguments. -/
def run (context : Context) (scan : Scan) : List String → Outcome
  | [] => (scan, none)
  | arg :: rest =>
    match step context scan arg rest with
    | .next scan => run context scan rest
    | .skip scan => run context scan rest.tail
    | .regroup scan =>
      if _ : 2 < arg.length then run context scan (restOfGroup arg :: rest) else (scan, none)
    | .stop scan error => (scan, error)
termination_by args => weight args
decreasing_by
  · simp [weight]
  · cases rest <;> simp [weight]; omega
  · have := length_restOfGroup ‹2 < arg.length›
    simp [weight]; omega

end Scan

end KeyClient.CommandLine
