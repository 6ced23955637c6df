import KeyClient.Json.Token

/-!
# Reading JSON

Tokens are put together by an automaton whose state holds the containers that are still open.
`Reader.step` says what a token does, `Json.read?` runs it over a text.  Of members with equal
keys the last one counts.
-/

namespace KeyClient.Json

/-- A container that waits for the value of its next entry. -/
inductive Frame where
  | array (reversed : List Value)
  | object (members : Members) (key : String)
deriving Repr, BEq

/-- What may come next; each state but the last holds the open containers, innermost first. -/
inductive Reader where
  | value (frames : List Frame)
  | firstItem (outer : List Frame)
  | afterItem (reversed : List Value) (outer : List Frame)
  | firstKey (outer : List Frame)
  | nextKey (members : Members) (outer : List Frame)
  | afterKey (members : Members) (key : String) (outer : List Frame)
  | afterMember (members : Members) (outer : List Frame)
  | finished (value : Value)
deriving Repr, BEq

namespace Reader

/-- A complete value is an entry of the innermost open container. -/
def deliver (v : Value) : List Frame → Reader
  | [] => finished v
  | .array reversed :: outer => afterItem (v :: reversed) outer
  | .object members k :: outer => afterMember (members.insert k v) outer

/-- A token at a place where a value must start. -/
def startValue (frames : List Frame) : Token → Option Reader
  | .literal v => some (deliver v frames)
  | .openBracket => some (firstItem frames)
  | .openBrace => some (firstKey frames)
  | _ => none

/-- One token. -/
def step : Reader → Token → Option Reader
  | value frames, token => startValue frames token
  | firstItem outer, .closeBracket => some (deliver (.array []) outer)
  | firstItem outer, token => startValue (.array [] :: outer) token
  | afterItem reversed outer, .comma => some (value (.array reversed :: outer))
  | afterItem reversed outer, .closeBracket => some (deliver (.array reversed.reverse) outer)
  | firstKey outer, .closeBrace => some (deliver (.object []) outer)
  | firstKey outer, .literal (.string k) => some (afterKey [] k outer)
  | nextKey members outer, .literal (.string k) => some (afterKey members k outer)
  | afterKey members k outer, .colon => some (value (.object members k :: outer))
  | afterMember members outer, .comma => some (nextKey members outer)
  | afterMember members outer, .closeBrace => some (deliver (.object members) outer)
  | _, _ => none

end Reader

/-- The value that a sequence of tokens stands for. -/
def ofTokens? (tokens : List Token) : Option Value :=
  match tokens.foldlM Reader.step (.value []) with
  | some (.finished value) => some value
  | _ => none

/-- The value that a JSON text stands for. -/
def read? (cs : List Char) : Option Value := (Token.scan? cs).bind ofTokens?

end KeyClient.Json
