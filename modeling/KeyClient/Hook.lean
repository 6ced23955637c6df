import KeyClient.KeyRequest
import KeyClient.Matches

/-!
# Hooks

Between reading the flags and sending the request a hook may look at the matches and change the
request; it then accepts the request, rejects it with a reason or raises an error of its own.
`Hook.Script` writes a hook down step by step, `Hook.Script.run` is the hook that carries a script
out, and `Hook.ofActions` the hook of a list of simple actions.
-/

namespace KeyClient

namespace Hook

/-- How a hook ends. -/
inductive Verdict where
  | accept
  | reject (reason : String)
  | raise (failure : Failure)
deriving Repr

/-- What a hook noted: the names of the matches and the request at that time. -/
structure Sighting where
  names : List String
  request : KeyRequest
deriving DecidableEq, Repr

/-- A hook that has run: the request it leaves, what it noted and how it ended. -/
structure Result where
  request : KeyRequest
  sightings : List Sighting
  verdict : Verdict
deriving Repr

end Hook

/-- What is done to a request before it is sent. -/
abbrev Hook := Matches → KeyRequest → Hook.Result

namespace Hook

/-- The hook that accepts every request as it is. -/
def acceptAll : Hook := fun _ request => ⟨request, [], .accept⟩

/-! ## Scripts -/

/-- A field that a hook sets. -/
inductive Write where
  | key (value : Bool)
  | uniqueKey (value : String)
deriving DecidableEq, Repr

/-- The request with the field set. -/
def Write.apply (request : KeyRequest) : Write → KeyRequest
  | key value => request.withKey value
  | uniqueKey value => request.withUniqueKey value

/-- The steps of a hook.  It reads the matches or the request and goes on by what it finds, even
where reading fails; it sets fields and notes what it sees; it ends with a verdict. -/
inductive Script where
  | finish (verdict : Verdict)
  | has (flag : String) (next : Bool → Script)
  | names (next : List String → Script)
  | boolean (flag : String) (next : Except AppError (Option Bool) → Script)
  | text (flag : String) (next : Except AppError (Option String) → Script)
  | fields (next : KeyRequest → Script)
  | note (next : Script)
  | set (write : Write) (next : Script)

namespace Script

/-- The hook that carries out a script. -/
def run : Script → Hook
  | finish verdict, _, request => ⟨request, [], verdict⟩
  | has flag next, m, request => (next (m.has flag)).run m request
  | names next, m, request => (next m.names).run m request
  | boolean flag next, m, request => (next (m.boolean? flag)).run m request
  | text flag next, m, request => (next (m.text? flag)).run m request
  | fields next, m, request => (next request).run m request
  | note next, m, request =>
    let result := next.run m request
    { result with sightings := ⟨m.names, request⟩ :: result.sightings }
  | set write next, m, request => next.run m (write.apply request)

/-- The fields that a script sets, in the order of setting. -/
def writes : Script → Matches → KeyRequest → List Write
  | finish _, _, _ => []
  | has flag next, m, request => (next (m.has flag)).writes m request
  | names next, m, request => (next m.names).writes m request
  | boolean flag next, m, request => (next (m.boolean? flag)).writes m request
  | text flag next, m, request => (next (m.text? flag)).writes m request
  | fields next, m, request => (next request).writes m request
  | note next, m, request => next.writes m request
  | set write next, m, request => write :: next.writes m (write.apply request)

end Script

/-! ## Actions -/

/-- One step of a simple hook. -/
inductive Action where
  | record
  | acceptAsIs
  | setKey (value : Bool)
  | setUniqueKey (value : String)
  | copyText (flag : String)
  | copyBoolean (flag : String)
  | require (flag reason : String)
  | fail (reason : String)
  | raise (message : String)
deriving DecidableEq, Repr

/-- The script that sets a field to a value that was read, if there is one; a value of the wrong
kind is an error that nothing catches. -/
def copy {α : Type} (write : α → Write) (rest : Script) : Except AppError (Option α) → Script
  | .ok (some value) => .set (write value) rest
  | .ok none => rest
  | .error error => .finish (.raise (.app error))

/-- The script of an action with the rest of the script behind it. -/
def Action.script (rest : Script) : Action → Script
  | record => .note rest
  | acceptAsIs => rest
  | setKey value => .set (.key value) rest
  | setUniqueKey value => .set (.uniqueKey value) rest
  | copyText flag => .text flag (copy .uniqueKey rest)
  | copyBoolean flag => .boolean flag (copy .key rest)
  | require flag reason => .has flag fun found => if found then rest else .finish (.reject reason)
  | fail reason => .finish (.reject reason)
  | raise message => .finish (.raise (.other "Error" message))

/-- The script of actions one after another, which accepts the request after the last. -/
def Script.ofActions (actions : List Action) : Script :=
  actions.foldr (fun action rest => action.script rest) (.finish .accept)

/-- The hook that carries out actions one after another. -/
def ofActions (actions : List Action) : Hook := (Script.ofActions actions).run

end Hook

end KeyClient
