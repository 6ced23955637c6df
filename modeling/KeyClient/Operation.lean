import KeyClient.Value.Basic

/-!
# Operations

The operations of the server that can be carried out from the command line, each with the flags
that its request takes.
-/

namespace KeyClient

/-- An operation of the server. -/
inductive Operation where
  | keyGet
deriving DecidableEq, Repr

/-- The kinds of values that a flag takes. -/
inductive FlagKind where
  | boolean
  | string
deriving DecidableEq, Repr

/-- The name of a kind. -/
def FlagKind.name : FlagKind → String
  | boolean => "boolean"
  | string => "string"

/-- A flag of an operation; no flag is required. -/
structure Flag where
  name : String
  kind : FlagKind
  help : String
deriving DecidableEq, Repr

/-- The flag as an object. -/
def Flag.toValue (flag : Flag) : Value :=
  .object [("name", .string flag.name), ("valueType", .string flag.kind.name),
    ("required", .bool false), ("help", .string flag.help)]

namespace Operation

/-- All operations. -/
def all : List Operation := [keyGet]

/-- The word for an operation on the command line. -/
def name : Operation → String
  | keyGet => "key-get"

/-- What the operation does. -/
def about : Operation → String
  | keyGet => "Gets a key"

/-- The flag for the key. -/
def keyFlag : Flag := ⟨"key", .boolean, "The same key name"⟩

/-- The flag for the key that nothing overrides. -/
def uniqueKeyFlag : Flag :=
  ⟨"unique-key", .string, "A key parameter that will not be overridden by the path spec"⟩

/-- The flags of an operation. -/
def flags : Operation → List Flag
  | keyGet => [keyFlag, uniqueKeyFlag]

/-- The operation with a name. -/
def ofName? (name : String) : Option Operation := all.find? (·.name == name)

/-- What is said about a name that no operation has. -/
def unknown (name : String) : String := s!"Unhandled command: {name}"

/-- The operation as an object. -/
def toValue (operation : Operation) : Value :=
  .object [("command", .string operation.name), ("name", .string operation.name),
    ("about", .string operation.about), ("flags", .array (operation.flags.map Flag.toValue))]

end Operation

end KeyClient
