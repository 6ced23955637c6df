import KeyClient.Failure
import KeyClient.Http.Headers
import KeyClient.Text.Utf8

/-!
# Requests and replies

A transport takes a request and gives a reply: a response of the server, or whatever was raised
in place of one.
-/

namespace KeyClient.Http

/-- What is raised in place of an answer. -/
inductive Raised where
  | error (message : String)
  | value (value : Value)
  /-- Something that is turned into a text in a way of its own. -/
  | other (conversion : Except Failure String)
deriving Repr

/-- What is said about it, or the failure of putting it in words. -/
def Raised.text : Raised → Except Failure String
  | .error message => .ok message
  | .value v => (v.text?).elim (.error .unconvertible) .ok
  | .other conversion => conversion

/-- A request for the resource at an address, to be answered in time. -/
structure Request where
  url : String
  headers : Headers
  deadline : Nat
deriving DecidableEq, Repr

/-- What a server answers. -/
structure Response where
  status : Nat
  statusText : String
  headers : Headers
  body : Except Raised (List UInt8)
deriving Repr

namespace Response

/-- Whether the server carried out the request. -/
def isSuccess (response : Response) : Bool := 200 ≤ response.status && response.status ≤ 299

/-- The statuses of responses without a body. -/
def bodiless : List Nat := [204, 205, 304]

/-- The most byte order marks that are dropped from a body: that of the body, and that of its
text. -/
def mostMarks : Nat := 2

/-- The body as text. -/
def text (response : Response) : Except Raised String :=
  response.body.map fun octets =>
    if bodiless.contains response.status then ""
    else String.ofList (Text.Utf8.dropMarks mostMarks (Text.Utf8.decode octets))

end Response

/-- What becomes of a request. -/
inductive Reply where
  | response (response : Response)
  | rejected (reason : Raised)
deriving Repr

/-- How requests are answered. -/
abbrev Transport := Request → Reply

end KeyClient.Http
