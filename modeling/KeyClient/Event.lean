import KeyClient.Client
import KeyClient.Config.Basic
import KeyClient.Hook

/-!
# Events

What a program does, in the order of doing.  Events do not depend on what the console shows; the
console decides that when it renders them.
-/

namespace KeyClient

/-- One thing that a program does. -/
inductive Event where
  /-- Something is logged. -/
  | log (entry : Log.Entry)
  /-- From now on, less severe entries are not shown. -/
  | setThreshold (threshold : Threshold)
  /-- Something is written to the output. -/
  | output (style : Text.Style) (text : String)
  /-- Something is written to the error output whatever the threshold. -/
  | notice (style : Text.Style) (text : String)
  /-- A client is made for a configuration. -/
  | client (config : Config)
  /-- The hook is asked about a request. -/
  | consult (m : Matches) (request : KeyRequest)
  /-- The hook notes something. -/
  | note (sighting : Hook.Sighting)
  /-- The resource at a path of the server is asked for. -/
  | get (path : String) (query : Url.Query)
  /-- A request is sent. -/
  | send (request : Http.Request)
  /-- The outcome of a request is reported. -/
  | report (text : String)
deriving Repr

namespace Event

/-- A line on the output. -/
def line (text : String) : Event := output [] (text ++ "\n")

/-- What is logged. -/
def entry? : Event → Option Log.Entry
  | .log entry => some entry
  | _ => none

/-- What the hook notes. -/
def sighting? : Event → Option Hook.Sighting
  | .note sighting => some sighting
  | _ => none

/-- What is sent. -/
def request? : Event → Option Http.Request
  | .send request => some request
  | _ => none

/-- What is reported. -/
def report? : Event → Option String
  | .report text => some text
  | _ => none

end Event

end KeyClient
