import KeyClient.Failure
import KeyClient.Setting

/-!
# Matches

The values that an invocation supplies, by the names of their flags.  A value is read as a truth
value or as a text; anything else is an error, an absent value is not.
-/

namespace KeyClient

/-- Settings by flag name, in the order in which the names came up first. -/
structure Matches where
  entries : List (String × Setting)
deriving Repr, BEq

namespace Matches

/-- No values. -/
def empty : Matches := ⟨[]⟩

/-- The entries with a setting for a name: in place of an older one, or at the end. -/
def insertInto (name : String) (setting : Setting) :
    List (String × Setting) → List (String × Setting)
  | [] => [(name, setting)]
  | (n, s) :: rest =>
    if n = name then (n, setting) :: rest else (n, s) :: insertInto name setting rest

/-- The matches with a setting for a name. -/
def insert (m : Matches) (name : String) (setting : Setting) : Matches :=
  ⟨insertInto name setting m.entries⟩

/-- The matches with the members of an object. -/
def ofMembers (members : Members) : Matches :=
  members.foldl (fun m member => m.insert member.1 (.value member.2)) empty

/-- The names with a setting. -/
def names (m : Matches) : List String := m.entries.map Prod.fst

/-- Whether there is a setting for the name. -/
def has (m : Matches) (name : String) : Bool := m.names.contains name

/-- The setting for a name. -/
def get (m : Matches) (name : String) : Setting := (m.entries.lookup name).getD .missing

/-- The error of a setting of the wrong kind; it shows the value, if there is one. -/
def mismatch (name noun : String) (setting : Setting) : AppError :=
  .validation s!"Flag \"--{name}\" is not a {noun}"
    (.object (("name", .string name) :: setting.value?.toList.map ("value", ·)))

/-- The truth value for a name. -/
def boolean? (m : Matches) (name : String) : Except AppError (Option Bool) :=
  match m.get name with
  | .value .undefined => .ok none
  | .value (.bool b) => .ok (some b)
  | setting => .error (mismatch name "boolean" setting)

/-- The text for a name. -/
def text? (m : Matches) (name : String) : Except AppError (Option String) :=
  match m.get name with
  | .value .undefined => .ok none
  | .value (.string s) => .ok (some s)
  | setting => .error (mismatch name "string" setting)

end Matches

end KeyClient
