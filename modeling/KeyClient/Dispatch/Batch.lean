import KeyClient.Dispatch

/-!
# Batches

Several runs may be started before the first of them ends.  A batch keeps where each of its runs
stands, numbers the requests that were sent, and records which run did what.  `Batch.together`
starts runs one after another; `Batch.releaseAll` then releases the replies to their requests, in
any order.
-/

namespace KeyClient.Dispatch

/-- Where a run of a batch stands. -/
inductive Stage where
  | waiting (request : Http.Request)
  | settled (outcome : Outcome)
  | ended (result : Except Failure Unit)
deriving Repr

/-- The request of a run that waits for the reply to it. -/
def Stage.request? : Stage → Option Http.Request
  | waiting request => some request
  | _ => none

/-- Where a run stands when it has been started. -/
def Run.stage (run : Run) : Stage :=
  match run.started with
  | .error failure => .ended (.error failure)
  | .ok (.settled outcome) => .settled outcome
  | .ok (.waiting request) => .waiting request

/-- Runs that were started together, each with a number: where they stand, which of them sent a
request, in the order of sending, and what they did, in the order of doing. -/
structure Batch where
  stages : List Stage
  senders : List Nat
  trace : List (Nat × Event)
deriving Repr

namespace Batch

/-- The batch without any run. -/
def empty : Batch := ⟨[], [], []⟩

/-- Start one more run. -/
def enter (batch : Batch) (run : Run) : Batch :=
  let number := batch.stages.length
  { stages := batch.stages ++ [run.stage]
    senders := batch.senders ++ (run.stage.request?.map fun _ => number).toList
    trace := batch.trace ++ run.events.map (number, ·) }

/-- End a run whose request has come to its end. -/
def finish (batch : Batch) (number : Nat) (outcome : Except Failure Outcome) : Batch :=
  let (events, result) := conclude outcome
  { batch with
    stages := batch.stages.set number (.ended result)
    trace := batch.trace ++ events.map (number, ·) }

/-- End a run whose outcome needs no reply. -/
def settle (batch : Batch) (number : Nat) : Batch :=
  match batch.stages[number]? with
  | some (.settled outcome) => batch.finish number (.ok outcome)
  | _ => batch

/-- The runs, started one after another; those that need no reply end once all are started. -/
def together (runs : List Run) : Batch :=
  (List.range runs.length).foldl settle (runs.foldl enter empty)

/-- Release the reply to one of the requests, by its place among them, and let the run that waits
for it end.  A reply that was released before, or to which there is no request, changes nothing. -/
def release (replies : Nat → Http.Reply) (batch : Batch) (place : Nat) : Batch :=
  match batch.senders[place]? with
  | none => batch
  | some number =>
    match (batch.stages[number]?).bind Stage.request? with
    | none => batch
    | some request => batch.finish number (Outcome.ofReply request.url (replies place))

/-- Release the replies to the requests in an order. -/
def releaseAll (batch : Batch) (replies : Nat → Http.Reply) (order : List Nat) : Batch :=
  order.foldl (release replies) batch

/-- What all runs did, in the order of doing. -/
def events (batch : Batch) : List Event := batch.trace.map Prod.snd

/-- What one run did. -/
def eventsOf (batch : Batch) (number : Nat) : List Event :=
  (batch.trace.filter (·.1 == number)).map Prod.snd

/-- The result of a run, if it has ended. -/
def result? (batch : Batch) (number : Nat) : Option (Except Failure Unit) :=
  match batch.stages[number]? with
  | some (.ended result) => some result
  | _ => none

end Batch

end KeyClient.Dispatch
