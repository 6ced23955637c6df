import KeyClient.Proofs.Client.Worded
import KeyClient.Proofs.Dispatch.Batch

/-!
# Runs beside one another

A client is ready if its address and its time limit let it send requests for keys.  The runs of a
ready client fail before they send anything, or wait for a reply (`start_cases`); so a batch of them
stands as `Batch.Released` says, and each run does in it what it does alone (`Batch.runs_alone`).
-/

namespace KeyClient.Dispatch

/-! ## Runs of a ready client -/

/-- The client can send requests for keys: its address and `/key` make one of a request, and its
time limit is a deadline. -/
def IsReady (client : Client) : Prop :=
  (Url.parse? (client.baseUrl ++ KeyRequest.path).toList).isSome ∧
    ∃ deadline, Http.Deadline.check client.timeoutMs = .ok deadline

/-- What is reported among some events. -/
def reported (events : List Event) : List String := events.filterMap Event.report?

/-- What is sent among some events. -/
def requested (events : List Event) : List Http.Request := events.filterMap Event.request?

@[simp] theorem reported_append (events later : List Event) :
    reported (events ++ later) = reported events ++ reported later := List.filterMap_append

@[simp] theorem requested_append (events later : List Event) :
    requested (events ++ later) = requested events ++ requested later := List.filterMap_append

theorem requested_flatMap {α : Type} (f : α → List Event) (l : List α) :
    requested (l.flatMap f) = l.flatMap fun a => requested (f a) := List.filterMap_flatMap

theorem reported_map_eq_nil {α : Type} {f : α → Event} (h : ∀ a, (f a).report? = none)
    (l : List α) : reported (l.map f) = [] := by
  rw [reported, List.filterMap_map, List.filterMap_eq_nil_iff]
  exact fun a _ => h a

theorem requested_map_eq_nil {α : Type} {f : α → Event} (h : ∀ a, (f a).request? = none)
    (l : List α) : requested (l.map f) = [] := by
  rw [requested, List.filterMap_map, List.filterMap_eq_nil_iff]
  exact fun a _ => h a

/-- The hook neither sends nor reports anything. -/
theorem consult_silent (hook : Hook) (m : Matches) (request : KeyRequest) :
    requested (consult hook m request).1 = [] ∧ reported (consult hook m request).1 = [] :=
  ⟨requested_map_eq_nil (fun _ => rfl) _, reported_map_eq_nil (fun _ => rfl) _⟩

theorem start_of_isReady {client : Client} (ready : IsReady client) (query : Url.Query) :
    ∃ request, client.start KeyRequest.path query = .waiting request := by
  obtain ⟨built, deadline, timely⟩ := ready
  obtain ⟨url, parsed⟩ := Option.isSome_iff_exists.1 built
  refine ⟨⟨String.ofList (url.withQuery query).text, Client.requestHeaders, deadline⟩, ?_⟩
  simp only [Client.start, Client.url?, parsed, Option.map_some, timely]

/-- A ready client sends one request, and nothing is reported before the reply to it. -/
theorem send_of_isReady {client : Client} (ready : IsReady client) (request : KeyRequest) :
    ∃ sent, (send client request).2 = .waiting sent ∧
      requested (send client request).1 = [sent] ∧ reported (send client request).1 = [] := by
  obtain ⟨sent, started⟩ := start_of_isReady ready request.query
  have events : (send client request).1 =
      [.log (stageEntry "sending" request), .get KeyRequest.path request.query] ++
        ((client.startEntries KeyRequest.path request.query).map .log ++ [.send sent]) := by
    simp only [send, get, started, Started.request?, Option.toList_some, List.map_cons,
      List.map_nil, List.cons_append, List.nil_append]
  refine ⟨sent, by simp only [send, get, started], ?_, ?_⟩
  · rw [events, requested_append, requested_append, requested_map_eq_nil fun _ => rfl]
    rfl
  · rw [events, reported_append, reported_append, reported_map_eq_nil fun _ => rfl]
    rfl

theorem start_of_ofFlags_error {client : Client} {hook : Hook} {m : Matches} {error : AppError}
    (flags : ofFlags m = .error error) : start client hook m = ⟨[], .error (.app error)⟩ := by
  rw [start, flags]

theorem start_of_failure {client : Client} {hook : Hook} {m : Matches} {request : KeyRequest}
    {failure : Failure} (flags : ofFlags m = .ok request)
    (verdict : verdictFailure? (hook m request).verdict = some failure) :
    start client hook m =
      ⟨[.log (stageEntry "flags applied" request)] ++ (consult hook m request).1,
        .error failure⟩ := by
  simp only [start, flags, consult, verdict, List.singleton_append]

theorem start_of_accept {client : Client} {hook : Hook} {m : Matches} {request : KeyRequest}
    (flags : ofFlags m = .ok request) (verdict : verdictFailure? (hook m request).verdict = none) :
    start client hook m =
      ⟨[.log (stageEntry "flags applied" request)] ++ (consult hook m request).1 ++
          (send client (hook m request).request).1,
        .ok (send client (hook m request).request).2⟩ := by
  simp only [start, flags, consult, verdict, List.singleton_append]

/-- A run of a ready client fails before it sends anything, or it sends one request and waits; up
to then, nothing is reported. -/
theorem start_cases {client : Client} (ready : IsReady client) (hook : Hook) (m : Matches) :
    reported (start client hook m).events = [] ∧
      ((∃ failure, (start client hook m).started = .error failure ∧
          requested (start client hook m).events = []) ∨
        ∃ request, (start client hook m).started = .ok (.waiting request) ∧
          requested (start client hook m).events = [request]) := by
  cases flags : ofFlags m with
  | error error =>
    rw [start_of_ofFlags_error flags]
    exact ⟨rfl, .inl ⟨_, rfl, rfl⟩⟩
  | ok request =>
    obtain ⟨sendsNothing, reportsNothing⟩ := consult_silent hook m request
    obtain ⟨sent, waits, sends, silent⟩ := send_of_isReady ready (hook m request).request
    have staged : requested [.log (stageEntry "flags applied" request)] = [] ∧
        reported [.log (stageEntry "flags applied" request)] = [] := ⟨rfl, rfl⟩
    cases verdict : verdictFailure? (hook m request).verdict with
    | some failure =>
      rw [start_of_failure flags verdict, requested_append, reported_append, sendsNothing,
        reportsNothing, staged.1, staged.2]
      exact ⟨rfl, .inl ⟨failure, rfl, rfl⟩⟩
    | none =>
      rw [start_of_accept flags verdict, requested_append, requested_append, reported_append,
        reported_append, sendsNothing, reportsNothing, staged.1, staged.2, sends, silent, waits]
      exact ⟨rfl, .inr ⟨sent, rfl, rfl⟩⟩

/-! ## Runs alone and in a batch -/

/-- What a run does and how it ends if no other run is about and its request gets a reply. -/
def alone (client : Client) (hook : Hook) (m : Matches) (reply : Http.Reply) :
    List Event × Except Failure Unit :=
  run client hook (fun _ => reply) m

theorem alone_of_error {client : Client} {hook : Hook} {m : Matches} {failure : Failure}
    (h : (start client hook m).started = .error failure) (reply : Http.Reply) :
    alone client hook m reply = ((start client hook m).events, .error failure) := by
  rw [alone, run, Run.finish, h]

theorem alone_of_waiting {client : Client} {hook : Hook} {m : Matches} {request : Http.Request}
    (h : (start client hook m).started = .ok (.waiting request)) (reply : Http.Reply) :
    alone client hook m reply =
      ((start client hook m).events ++ (conclude (Outcome.ofReply request.url reply)).1,
        (conclude (Outcome.ofReply request.url reply)).2) := by
  rw [alone, run, Run.finish, h]
  rfl

theorem requested_conclude (outcome : Except Failure Outcome) :
    requested (conclude outcome).1 = [] := by
  cases outcome <;> rfl

/-- Nothing happens at the end of a request but that its outcome is reported. -/
theorem eq_report_of_mem_conclude {outcome : Except Failure Outcome} {event : Event}
    (mem : event ∈ (conclude outcome).1) : ∃ text, event = .report text := by
  cases outcome with
  | error failure => cases mem
  | ok outcome => exact ⟨_, List.mem_singleton.1 mem⟩

/-- A run whose request has come to its end fails only for want of an outcome. -/
theorem conclude_eq_error_iff {outcome : Except Failure Outcome} {failure : Failure} :
    (conclude outcome).2 = .error failure ↔ outcome = .error failure := by
  cases outcome <;> simp [conclude]

/-- A started run of a ready client sends what it waits for. -/
theorem requested_start {client : Client} (ready : IsReady client) (hook : Hook) (m : Matches) :
    requested (start client hook m).events = (start client hook m).request?.toList := by
  rw [Run.request?, Run.stage]
  rcases (start_cases ready hook m).2 with ⟨failure, failed, sends⟩ | ⟨request, waits, sends⟩
  · rw [failed, sends]
    rfl
  · rw [waits, sends]
    rfl

namespace Batch

/-- A run of a batch has failed before it sent a request, as it does alone. -/
structure Failed (batch : Batch) (number : Nat)
    (alone : Http.Reply → List Event × Except Failure Unit) : Prop where
  unsent : number ∉ batch.senders
  ended : ∀ reply, batch.result? number = some (alone reply).2 ∧
    batch.eventsOf number = (alone reply).1
  failure : ∀ reply, ∃ failure, (alone reply).2 = .error failure
  silent : reported (batch.eventsOf number) = []

/-- A run of a batch has sent the request at a place, as it does alone.  If the reply at this place
was released, the run has ended as it does alone with that reply; otherwise it has not.  A reply that
can be put in words is reported on, once; any other makes the run fail. -/
structure Sent (batch : Batch) (replies : Nat → Http.Reply) (order : List Nat) (number : Nat)
    (alone : Http.Reply → List Event × Except Failure Unit) (place : Nat)
    (request : Http.Request) : Prop where
  sender : batch.senders[place]? = some number
  own : (requested batch.events)[place]? = some request
  sends : ∀ reply, requested (alone reply).1 = [request]
  reports : ∀ reply : Http.Reply, reply.IsWorded → ∃ outcome,
    Outcome.ofReply request.url reply = .ok outcome ∧ (alone reply).2 = .ok () ∧
      reported (alone reply).1 = [Report.ofOutcome outcome]
  fails : ∀ (reply : Http.Reply) (reason : Http.Raised) (failure : Failure),
    reply.Raises reason → reason.Wordless failure →
      (alone reply).2 = .error failure ∧ reported (alone reply).1 = []
  ended : place ∈ order → batch.result? number = some (alone (replies place)).2 ∧
    batch.eventsOf number = (alone (replies place)).1
  pending : place ∉ order → batch.result? number = none ∧ reported (batch.eventsOf number) = []

section

variable {client : Client} {hook : Hook} {ms : List Matches} {replies : Nat → Http.Reply}
  {order : List Nat} {batch : Batch}

theorem requested_events (ready : IsReady client)
    (h : Released (ms.map (start client hook)) replies order batch) :
    requested batch.events = requestsOf (ms.map (start client hook)) := by
  have replying : ∀ outcomes : List (Except Failure Outcome),
      requested (outcomes.flatMap fun outcome => (conclude outcome).1) = [] := by
    intro outcomes
    rw [requested_flatMap, List.flatMap_eq_nil_iff]
    exact fun outcome _ => requested_conclude outcome
  rw [h.events, requested_append, replying, List.append_nil, requested_flatMap, requestsOf,
    List.filterMap_eq_flatMap_toList, List.flatMap_map, List.flatMap_map]
  exact List.flatMap_congr fun m _ => requested_start ready hook m

theorem requested_alone (ready : IsReady client) (hook : Hook) (m : Matches)
    (reply : Http.Reply) :
    requested (alone client hook m reply).1 = (start client hook m).request?.toList := by
  rw [← requested_start ready]
  rcases (start_cases ready hook m).2 with ⟨failure, failed, -⟩ | ⟨request, waits, -⟩
  · rw [alone_of_error failed]
  · rw [alone_of_waiting waits, requested_append, requested_conclude, List.append_nil]

/-- A run that fails does so in a batch as it does alone. -/
theorem Released.failed (ready : IsReady client)
    (h : Released (ms.map (start client hook)) replies order batch) {number : Nat} {m : Matches}
    (found : ms[number]? = some m) {failure : Failure}
    (error : (start client hook m).started = .error failure) :
    Failed batch number (alone client hook m) := by
  have started : (ms.map (start client hook))[number]? = some (start client hook m) := by
    rw [List.getElem?_map, found, Option.map_some]
  have unsent : number ∉ sendersOf (ms.map (start client hook)) := by
    intro sends
    obtain ⟨request, asks⟩ := mem_sendersOf.1 sends
    rw [requestAt?, started, Option.bind_some, Run.request?, Run.stage, error] at asks
    cases asks
  obtain ⟨stage, events⟩ := h.kept number fun place _ sender =>
    unsent (List.mem_of_getElem? sender)
  rw [started, Option.map_some, Run.stage, error] at stage
  rw [started, Option.elim_some] at events
  refine ⟨h.senders ▸ unsent, fun reply => ⟨?_, ?_⟩, fun reply => ⟨failure, ?_⟩, ?_⟩
  · rw [result?, stage, alone_of_error error]
  · rw [events, alone_of_error error]
  · rw [alone_of_error error]
  · rw [events, (start_cases ready hook m).1]

/-- A run that sends a request does in a batch what it does alone with the reply to it. -/
theorem Released.sent (ready : IsReady client)
    (h : Released (ms.map (start client hook)) replies order batch) {number : Nat} {m : Matches}
    (found : ms[number]? = some m) {request : Http.Request}
    (waits : (start client hook m).started = .ok (.waiting request)) :
    ∃ place, Sent batch replies order number (alone client hook m) place request := by
  have started : (ms.map (start client hook))[number]? = some (start client hook m) := by
    rw [List.getElem?_map, found, Option.map_some]
  have own : (start client hook m).request? = some request := by
    rw [Run.request?, Run.stage, waits]
    rfl
  have asks : requestAt? (ms.map (start client hook)) number = some request := by
    rw [requestAt?, started, Option.bind_some, own]
  obtain ⟨place, sender⟩ := List.mem_iff_getElem?.1 (mem_sendersOf.2 ⟨request, asks⟩)
  -- each run has one place among the senders
  have only : ∀ other, (sendersOf (ms.map (start client hook)))[other]? = some number →
      other = place := by
    intro other same
    obtain ⟨inside, -⟩ := List.getElem?_eq_some_iff.1 sender
    exact ((List.getElem?_inj inside (nodup_sendersOf _)).1 (sender.trans same.symm)).symm
  refine ⟨place, h.senders ▸ sender, ?_, fun reply => ?_, fun reply worded => ?_,
    fun reply reason failure raises wordless => ?_, fun released => ?_, fun held => ?_⟩
  · rw [requested_events ready h, getElem?_requestsOf sender, asks]
  · rw [requested_alone ready, own]
    rfl
  · obtain ⟨outcome, known⟩ := Outcome.exists_ofReply_of_isWorded worded request.url
    refine ⟨outcome, known, ?_⟩
    rw [alone_of_waiting waits, reported_append, (start_cases ready hook m).1, known]
    exact ⟨rfl, rfl⟩
  · have unknown : Outcome.ofReply request.url reply = .error failure :=
      Outcome.ofReply_eq_error_iff.2 ⟨reason, raises, wordless⟩
    rw [alone_of_waiting waits, reported_append, (start_cases ready hook m).1, unknown]
    exact ⟨rfl, rfl⟩
  · obtain ⟨stage, events⟩ := h.moved place released number sender request asks
    rw [result?, stage, events, started, alone_of_waiting waits]
    exact ⟨rfl, rfl⟩
  · obtain ⟨stage, events⟩ := h.kept number fun other released same =>
      held (only other same ▸ released)
    rw [started, Option.map_some, Run.stage, waits] at stage
    rw [result?, stage, events, started, Option.elim_some, (start_cases ready hook m).1]
    exact ⟨rfl, rfl⟩

end

end Batch

end KeyClient.Dispatch
