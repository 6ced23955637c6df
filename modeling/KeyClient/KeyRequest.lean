import KeyClient.Url.Query
import KeyClient.Value.Basic

/-!
# Requests for keys

The request for a key has two fields, which may be set or not.  Its texts are made of characters
(`KeyRequest`), or of code units while the fields are being set (`KeyFields Text.Wide`).
`KeyRequest.query` is the query that carries the fields that are set.
-/

namespace KeyClient

/-- The fields of a request for a key, with texts of some type. -/
structure KeyFields (α : Type) where
  key : Option Bool
  uniqueKey : Option α
deriving DecidableEq, Repr

namespace KeyFields

variable {α β : Type}

/-- No field is set. -/
def empty : KeyFields α := ⟨none, none⟩

/-- Set the key. -/
def withKey (fields : KeyFields α) (value : Bool) : KeyFields α := { fields with key := some value }

/-- Set the key that nothing overrides. -/
def withUniqueKey (fields : KeyFields α) (value : α) : KeyFields α :=
  { fields with uniqueKey := some value }

/-- The fields with other texts in place of their own. -/
def map (f : α → β) (fields : KeyFields α) : KeyFields β := ⟨fields.key, fields.uniqueKey.map f⟩

end KeyFields

/-- A request for a key. -/
abbrev KeyRequest := KeyFields String

namespace KeyRequest

/-- The path of the request below that of the server. -/
def path : String := "/key"

/-- The fields that are set, as members of an object. -/
def members (request : KeyRequest) : List (String × Value) :=
  (request.key.map fun b => ("key", Value.bool b)).toList ++
    (request.uniqueKey.map fun s => ("uniqueKey", Value.string s)).toList

/-- The fields that are set. -/
def toValue (request : KeyRequest) : Value := .object request.members

/-- The query with the fields that are set. -/
def query (request : KeyRequest) : Url.Query :=
  (request.key.map fun b => ("key".toList, (toString b).toList)).toList ++
    (request.uniqueKey.map fun s => ("unique_key".toList, s.toList)).toList

end KeyRequest

end KeyClient
