import KeyClient.Event
import KeyClient.Operation
import KeyClient.Report

/-!
# Dispatch

Carrying out an operation takes two steps.  `Dispatch.start` reads the flags, runs the hook and
starts the request; `Dispatch.Run.finish` reports the outcome.
-/

namespace KeyClient.Dispatch

/-- The request that the flags describe. -/
def ofFlags (m : Matches) : Except AppError KeyRequest := do
  let key ← m.boolean? Operation.keyFlag.name
  let uniqueKey ← m.text? Operation.uniqueKeyFlag.name
  return ⟨key, uniqueKey⟩

/-- What is logged about a request at some stage. -/
def stageEntry (stage : String) (request : KeyRequest) : Log.Entry :=
  .debug s!"{Operation.keyGet.name}: {stage}" [request.toValue]

/-- The failure that the verdict of a hook means, if it is one. -/
def verdictFailure? : Hook.Verdict → Option Failure
  | .accept => none
  | .reject reason => some (.app (.override Operation.keyGet.name reason))
  | .raise failure => some failure

/-- A run that has been started: what it did, and where its request stands. -/
structure Run where
  events : List Event
  started : Except Failure Started
deriving Repr

/-- Ask the hook about a request. -/
def consult (hook : Hook) (m : Matches) (request : KeyRequest) : List Event × Hook.Result :=
  let result := hook m request
  (.consult m request :: result.sightings.map .note, result)

/-- Ask the server for the resource at a path. -/
def get (client : Client) (path : String) (query : Url.Query) : List Event × Started :=
  let started := client.start path query
  (.get path query :: (client.startEntries path query).map .log ++
    started.request?.toList.map .send, started)

/-- Start a request as the hook left it. -/
def send (client : Client) (request : KeyRequest) : List Event × Started :=
  let (events, started) := get client KeyRequest.path request.query
  (.log (stageEntry "sending" request) :: events, started)

/-- Read the flags, ask the hook and start the request. -/
def start (client : Client) (hook : Hook) (m : Matches) : Run :=
  match ofFlags m with
  | .error error => ⟨[], .error (.app error)⟩
  | .ok request =>
    let (asked, result) := consult hook m request
    let events := .log (stageEntry "flags applied" request) :: asked
    match verdictFailure? result.verdict with
    | some failure => ⟨events, .error failure⟩
    | none =>
      let (sent, started) := send client result.request
      ⟨events ++ sent, .ok started⟩

/-- Start the operation with a name. -/
def startNamed (client : Client) (hook : Hook) (name : String) (m : Matches) : Run :=
  match Operation.ofName? name with
  | some .keyGet => start client hook m
  | none => ⟨[], .error (.other "Error" (Operation.unknown name))⟩

/-- The report on an outcome. -/
def reportEvent (outcome : Outcome) : Event := .report (Report.ofOutcome outcome)

/-- What happens when a request has come to its end, and how its run ends: the outcome is reported,
unless there is none. -/
def conclude : Except Failure Outcome → List Event × Except Failure Unit
  | .error failure => ([], .error failure)
  | .ok outcome => ([reportEvent outcome], .ok ())

/-- What happens in a run whose request is answered, and the failure that ends it, if one does. -/
def Run.finish (run : Run) (transport : Http.Transport) : List Event × Except Failure Unit :=
  match run.started with
  | .error failure => (run.events, .error failure)
  | .ok started =>
    let (events, result) := conclude (started.finish transport)
    (run.events ++ events, result)

/-- Carry out the operation. -/
def run (client : Client) (hook : Hook) (transport : Http.Transport) (m : Matches) :
    List Event × Except Failure Unit :=
  (start client hook m).finish transport

end KeyClient.Dispatch
