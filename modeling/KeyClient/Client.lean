import KeyClient.Failure
import KeyClient.Http.Deadline
import KeyClient.Http.Message
import KeyClient.KeyRequest
import KeyClient.Log.Entry
import KeyClient.Text.Blank
import KeyClient.Url.Basic

/-!
# Clients

A client sends requests to one server.  A request either comes to its end at once, because it
cannot be sent, or waits for a reply: `Client.start` tells which, and `Outcome.ofReply` says what
a reply means.  A request that fails has a `RequestError` as its outcome, which quotes what was
raised; only if this cannot be put in words, there is a failure in place of an outcome.
-/

namespace KeyClient

/-- Why a request failed; a status is there if the server answered. -/
structure RequestError where
  fault : RequestFault
  message : String
  status : Option Nat
  context : List (String × Value)
deriving Repr

/-- The error of the application. -/
def RequestError.toError (error : RequestError) : AppError :=
  .request error.fault error.message ((error.status.map .ofNat).getD .undefined)
    (.object error.context)

/-- What a request yields if it succeeds. -/
structure Success where
  status : Nat
  headers : Members
deriving Repr

/-- The success as an object. -/
def Success.toValue (success : Success) : Value :=
  .object [("status", .ofNat success.status), ("headers", .object success.headers),
    ("inner", .null)]

/-- What becomes of a request. -/
abbrev Outcome := Except RequestError Success

/-- A client of the server at an address. -/
structure Client where
  baseUrl : String
  timeoutMs : Number
deriving DecidableEq, Repr

namespace Client

/-- The text without the slashes at its end. -/
def dropSlashes (cs : List Char) : List Char := (cs.reverse.dropWhile (· == '/')).reverse

/-- The time limit of a client that is given none, in milliseconds. -/
def defaultTimeout : Nat := 30000

/-- The client of the server at an address. -/
def ofAddress (baseUrl : String) (timeoutMs : Option Number) : Client where
  baseUrl := String.ofList (dropSlashes baseUrl.toList)
  timeoutMs := timeoutMs.getD (.integer defaultTimeout)

/-- The address of a request, if the server and the path make one. -/
def url? (client : Client) (path : String) (query : Url.Query) : Option Url :=
  (Url.parse? (client.baseUrl ++ path).toList).map (·.withQuery query)

/-- The headers of every request. -/
def requestHeaders : Http.Headers := [("Accept", "application/json")]

end Client

/-! ## Outcomes -/

namespace Outcome

/-- The outcome of a request for which there is no address. -/
def invalid (client : Client) (path : String) : Outcome :=
  .error
    { fault := .invalidRequest
      message := s!"Cannot build request URL from base \"{client.baseUrl}\": Invalid URL"
      status := none
      context := [("baseUrl", .string client.baseUrl), ("path", .string path)] }

/-- The outcome of a request that got no answer. -/
def unanswered (url reason : String) : Outcome :=
  .error
    { fault := .communication
      message := s!"Failed to reach {url}: {reason}"
      status := none
      context := [("url", .string url)] }

/-- The outcome of a request whose answer cannot be read. -/
def unreadable (url : String) (response : Http.Response) (reason : String) : Outcome :=
  .error
    { fault := .unreadableResponse
      message := s!"Failed to read error body from {url}: {reason}"
      status := some response.status
      context := [("url", .string url)] }

/-- The outcome of a request that the server did not carry out. -/
def unexpected (url : String) (response : Http.Response) (body : String) : Outcome :=
  let line := s!"Unexpected response: {response.status} {response.statusText}"
  .error
    { fault := .unexpectedResponse
      message := String.ofList (Text.trimEnd line.toList)
      status := some response.status
      context := [("url", .string url), ("body", .string body)] }

/-- The outcome of a request to an address, by the reply to it. -/
def ofReply (url : String) : Http.Reply → Except Failure Outcome
  | .rejected reason => reason.text.map (unanswered url)
  | .response response =>
    if response.isSuccess then .ok (.ok ⟨response.status, Http.Headers.record response.headers⟩)
    else
      match response.text with
      | .error reason => reason.text.map (unreadable url response)
      | .ok body => .ok (unexpected url response body)

/-- The outcome as a value. -/
def toValue : Outcome → Value
  | .ok success => success.toValue
  | .error error => error.toError.toValue

end Outcome

/-! ## Sending -/

/-- Where a request stands after it was started. -/
inductive Started where
  | settled (outcome : Outcome)
  | waiting (request : Http.Request)
deriving Repr

namespace Started

/-- The outcome, with the reply of a transport if it is needed. -/
def finish (transport : Http.Transport) : Started → Except Failure Outcome
  | settled outcome => .ok outcome
  | waiting request => Outcome.ofReply request.url (transport request)

/-- The request that was sent, if one was. -/
def request? : Started → Option Http.Request
  | settled _ => none
  | waiting request => some request

theorem request?_eq_some_iff {started : Started} {request : Http.Request} :
    started.request? = some request ↔ started = .waiting request := by
  cases started <;> simp [request?]

end Started

namespace Client

/-- Start a request for the resource at a path. -/
def start (client : Client) (path : String) (query : Url.Query) : Started :=
  match client.url? path query with
  | none => .settled (.invalid client path)
  | some url =>
    let url := String.ofList url.text
    match Http.Deadline.check client.timeoutMs with
    | .error reason => .settled (.unanswered url reason)
    | .ok deadline => .waiting ⟨url, requestHeaders, deadline⟩

/-- What is logged when a request is started. -/
def startEntries (client : Client) (path : String) (query : Url.Query) : List Log.Entry :=
  match client.url? path query with
  | none => []
  | some url => [.debug ("GET " ++ String.ofList url.text) []]

/-- Start a request for a key. -/
def startKey (client : Client) (request : KeyRequest) : Started :=
  client.start KeyRequest.path request.query

/-- What is logged when a request for a key is started. -/
def startKeyEntries (client : Client) (request : KeyRequest) : List Log.Entry :=
  client.startEntries KeyRequest.path request.query

end Client

end KeyClient
