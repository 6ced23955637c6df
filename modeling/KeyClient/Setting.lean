import KeyClient.Value.Basic

/-!
# Settings

A name in a collection of settings stands for a value, or for one of the operations that every
collection has.  The settings lie on a ground: a name that is not set is looked up there.  The
ground itself is the value of one name, `Ground.name`.
-/

namespace KeyClient

/-- What a name stands for. -/
inductive Setting where
  | value (v : Value)
  | operation
deriving Repr, BEq, Inhabited

namespace Setting

/-- The setting of a name that stands for nothing. -/
def missing : Setting := value .undefined

/-- The value, unless it is an operation. -/
def value? : Setting → Option Value
  | value v => some v
  | operation => none

/-- Whether the name stands for nothing. -/
def isMissing : Setting → Bool
  | value .undefined => true
  | _ => false

/-- The number that a setting converts to. -/
def toNumber (setting : Setting) : Number := (setting.value?.map Value.toNumber).getD .nan

end Setting

/-- What lies below the settings of a collection. -/
inductive Ground where
  /-- The operations that every collection has. -/
  | common
  /-- Nothing. -/
  | bare
  /-- The members of a container, and below them the operations that containers have. -/
  | container (v : Value)
deriving Repr, BEq, Inhabited

namespace Ground

/-- The name whose value is the ground itself. -/
def name : String := "__proto__"

/-- The operations of every collection. -/
def operations : List String :=
  ["constructor", "hasOwnProperty", "isPrototypeOf", "propertyIsEnumerable", "toLocaleString",
    "toString", "valueOf", "__defineGetter__", "__defineSetter__", "__lookupGetter__",
    "__lookupSetter__"]

/-- The operations that only arrays have. -/
def arrayOperations : List String :=
  ["at", "concat", "copyWithin", "entries", "every", "fill", "filter", "find", "findIndex",
    "findLast", "findLastIndex", "flat", "flatMap", "forEach", "includes", "indexOf", "join",
    "keys", "lastIndexOf", "map", "pop", "push", "reduce", "reduceRight", "reverse", "shift",
    "slice", "some", "sort", "splice", "toReversed", "toSorted", "toSpliced", "unshift", "values",
    "with"]

/-- The member of a container with a name; an array has its items by their places, and its
length. -/
def member? (v : Value) (key : String) : Option Value :=
  match v with
  | .array items =>
    if key = "length" then some (.ofNat items.length)
    else (Members.index? key).bind fun i => items[i]?
  | .object members => members.lookup key
  | _ => none

/-- The value that the ground has as a whole. -/
def whole : Ground → Value
  | common => .object []
  | bare => .undefined
  | container v => v

/-- Whether a container has operations of its own with the name. -/
def isArrayOperation (v : Value) (key : String) : Bool :=
  match v with
  | .array _ => arrayOperations.contains key
  | _ => false

/-- What a name stands for that is not among the members of a container. -/
def inherited (ground : Ground) (key : String) : Setting :=
  if key = name then .value ground.whole
  else if operations.contains key then .operation
  else .missing

/-- What a name stands for in the ground. -/
def get (ground : Ground) (key : String) : Setting :=
  match ground with
  | common => ground.inherited key
  | bare => .missing
  | container v =>
    match member? v key with
    | some member => .value member
    | none => if isArrayOperation v key then .operation else ground.inherited key

/-- Whether setting a name changes the ground instead of the collection. -/
def isGround (ground : Ground) (key : String) : Bool :=
  key == name &&
    match ground with
    | common => true
    | bare => false
    | container v => (member? v key).isNone

/-- The ground that a value makes, if it can be one. -/
def ofValue? : Value → Option Ground
  | .null => some bare
  | .array items => some (container (.array items))
  | .object members => some (container (.object members))
  | _ => none

/-- The bare ground has nothing. -/
@[simp] theorem get_bare (key : String) : bare.get key = .missing := rfl

end Ground

end KeyClient
