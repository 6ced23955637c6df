import KeyClient.Client

/-!
# Sessions

A session prepares requests of one client.  Requests are numbered in the order in which they are
begun; each step begins one, sets a field of one, looks at the fields of one, or sends one.
`Session.advance` is what a step makes of a session and `Session.answer` what the step gives back.
The texts of the fields are kept as they were set; what is sent is the text in characters.
-/

namespace KeyClient

/-- A client with the requests that were begun. -/
structure Session where
  client : Client
  requests : List (KeyFields Text.Wide)
deriving Repr

namespace Session

/-- The session in which no request has been begun. -/
def ofClient (client : Client) : Session := ⟨client, []⟩

/-- One step of a session; what is sent is answered by a transport of its own. -/
inductive Step where
  | begin
  | setKey (index : Nat) (value : Bool)
  | setUniqueKey (index : Nat) (value : Text.Wide)
  | look (index : Nat)
  | send (index : Nat) (transport : Http.Transport)

/-- What a step gives back. -/
inductive Answer where
  /-- The number of the request that was begun. -/
  | begun (index : Nat)
  /-- The request whose field was set. -/
  | same
  /-- The fields that are set. -/
  | fields (fields : KeyFields Text.Wide)
  /-- What was sent, and what became of it. -/
  | sent (request? : Option Http.Request) (outcome : Except Failure Outcome)
deriving Repr

/-- Change one request. -/
def modify (session : Session) (index : Nat)
    (change : KeyFields Text.Wide → KeyFields Text.Wide) : Session :=
  { session with requests := session.requests.modify index change }

/-- What a step makes of a session. -/
def advance (session : Session) : Step → Session
  | .begin => { session with requests := session.requests ++ [.empty] }
  | .setKey index value => session.modify index (·.withKey value)
  | .setUniqueKey index value => session.modify index (·.withUniqueKey value)
  | .look _ | .send .. => session

/-- The fields of a request. -/
def fields (session : Session) (index : Nat) : KeyFields Text.Wide :=
  session.requests.getD index .empty

/-- A request as it is sent. -/
def request (session : Session) (index : Nat) : KeyRequest :=
  (session.fields index).map Text.Wide.text

/-- Where a request stands once it is sent. -/
def sent (session : Session) (index : Nat) : Started :=
  session.client.startKey (session.request index)

/-- What a step gives back. -/
def answer (session : Session) : Step → Answer
  | .begin => .begun session.requests.length
  | .setKey .. | .setUniqueKey .. => .same
  | .look index => .fields (session.fields index)
  | .send index transport =>
    .sent (session.sent index).request? ((session.sent index).finish transport)

/-- The session after some steps. -/
def after (session : Session) (steps : List Step) : Session := steps.foldl advance session

/-- What some steps give back, one after another. -/
def answers (session : Session) : List Step → List Answer
  | [] => []
  | step :: rest => session.answer step :: (session.advance step).answers rest

end Session

end KeyClient
