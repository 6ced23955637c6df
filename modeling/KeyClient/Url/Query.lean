import KeyClient.Text.Split
import KeyClient.Url.Percent

/-!
# Queries

A query is a list of named values.  It is written with an equals sign between name and value, an
ampersand between two of them, a plus sign for each space, and everything but letters, digits and
four marks percent encoded.  The main definitions are `Query.encode` and `Query.decode`.
-/

namespace KeyClient.Url

/-- Names with their values; a name may occur more than once. -/
abbrev Query := List (List Char × List Char)

namespace Query

/-- Whether the character stands for itself. -/
def isPlain (c : Char) : Bool := c.isAlphanum || ['*', '-', '.', '_'].contains c

/-- A name or a value. -/
def encodeText (cs : List Char) : List Char :=
  cs.flatMap fun c => if isPlain c then [c] else if c = ' ' then ['+'] else Percent.encodeChar c

/-- A name with its value. -/
def encodePair (pair : List Char × List Char) : List Char :=
  encodeText pair.1 ++ '=' :: encodeText pair.2

/-- The written query. -/
def encode (query : Query) : List Char := Text.join ['&'] (query.map encodePair)

/-- What a written name or value stands for. -/
def decodeText (cs : List Char) : List Char :=
  Text.Utf8.decode (Percent.decode (cs.map fun c => if c = '+' then ' ' else c))

/-- What a written pair stands for; without an equals sign the value is empty. -/
def decodePair (cs : List Char) : List Char × List Char :=
  let (name, value) := Text.cut (· == '=') cs
  (decodeText name, decodeText (value.getD []))

/-- The query that a text stands for. -/
def decode (cs : List Char) : Query :=
  ((Text.split (· == '&') cs).filter fun part => !part.isEmpty).map decodePair

end Query

end KeyClient.Url
