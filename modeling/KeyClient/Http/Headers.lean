import KeyClient.Value.Basic

/-!
# Headers

Headers arrive one after another.  Their names are written in small letters, and the values of
one name are joined in the order of arrival.  `Headers.record` is the object that lists them by
name.
-/

namespace KeyClient.Http

/-- Names and values as they arrive. -/
abbrev Headers := List (String × String)

namespace Headers

/-- Whether the character is dropped at the ends of a value. -/
def isPadding (c : Char) : Bool := [' ', '\t', '\r', '\n'].contains c

/-- A value without padding. -/
def trim (value : String) : String :=
  String.ofList (((value.toList.dropWhile isPadding).reverse.dropWhile isPadding).reverse)

/-- A name in small letters. -/
def lower (name : String) : String := String.ofList (name.toList.map Char.toLower)

/-- The one name whose values are never joined. -/
def unjoined : String := "set-cookie"

/-- What stands between the joined values of a name. -/
def separator (name : String) : String := if name = "cookie" then "; " else ", "

/-- Names in small letters with values without padding. -/
def normalize (headers : Headers) : Headers :=
  headers.map fun (name, value) => (lower name, trim value)

/-- The names of normalized headers, each once, sorted. -/
def names (headers : Headers) : List String :=
  (headers.map Prod.fst).eraseDups.mergeSort (fun a b => decide (a ≤ b))

/-- The values of a name in the order of arrival. -/
def values (headers : Headers) (name : String) : List String :=
  (headers.filter fun header => header.1 == name).map Prod.snd

/-- The headers by name, with the values of each name joined. -/
def combined (headers : Headers) : Headers :=
  let headers := normalize headers
  (names headers).flatMap fun name =>
    if name = unjoined then (values headers name).map (name, ·)
    else [(name, (separator name).intercalate (values headers name))]

/-- The member that cannot be set on an object. -/
def unsettable : String := "__proto__"

/-- The headers as an object; of values that are not joined the last one counts. -/
def record (headers : Headers) : Members :=
  Members.ofEntries (((combined headers).filter fun header => header.1 != unsettable).map
    fun (name, value) => (name, .string value))

end Headers

end KeyClient.Http
