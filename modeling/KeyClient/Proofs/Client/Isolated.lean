import KeyClient.Proofs.Client.Ending
import KeyClient.Proofs.Text.Units
import KeyClient.Session

/-!
# Requests beside one another

A session may hold many requests of one client.  The fields of each are the last values written to
them since it was begun (`fields_after`), whatever is done to the others meanwhile; and what the
steps on one request give back does not depend on the steps on the others at all
(`answersOf_filter`).  `Session.isIsolated_after` puts this together for every sequence of steps.
A request is sent with the characters that its texts spell, so what is kept of a surrogate without
its partner is not what is sent (`Session.sent_surrogate`).
-/

namespace KeyClient

/-! ## Fields of a request -/

namespace KeyFields

variable {α : Type}

/-- The fields, with others in place of those that are not set. -/
def orElse (later earlier : KeyFields α) : KeyFields α :=
  ⟨later.key.or earlier.key, later.uniqueKey.or earlier.uniqueKey⟩

@[simp] theorem empty_orElse (fields : KeyFields α) : orElse empty fields = fields := by
  simp [orElse, empty]

@[simp] theorem orElse_empty (fields : KeyFields α) : fields.orElse empty = fields := by
  simp [orElse, empty]

theorem orElse_assoc (last later earlier : KeyFields α) :
    (last.orElse later).orElse earlier = last.orElse (later.orElse earlier) := by
  simp [orElse, Option.or_assoc]

/-- The characters of a request are those that its fields spell. -/
structure IsSpelled (fields : KeyFields Text.Wide) (request : KeyRequest) : Prop where
  key : request.key = fields.key
  uniqueKey : ∀ s, request.uniqueKey = some s ↔ ∃ wide, fields.uniqueKey = some wide ∧
    Text.Spelled (wide.units.map UInt16.toNat) s.toList

/-- Fields spell nothing but the request that they are sent as. -/
theorem isSpelled_iff {fields : KeyFields Text.Wide} {request : KeyRequest} :
    fields.IsSpelled request ↔ fields.map Text.Wide.text = request := by
  obtain ⟨key, uniqueKey⟩ := fields
  obtain ⟨key', uniqueKey'⟩ := request
  have texts : (∀ s, uniqueKey' = some s ↔ ∃ wide, uniqueKey = some wide ∧
      Text.Spelled (wide.units.map UInt16.toNat) s.toList) ↔
      uniqueKey.map Text.Wide.text = uniqueKey' := by
    simp only [← Text.Wide.text_eq_iff, ← Option.map_eq_some_iff]
    exact ⟨fun same => (Option.ext same).symm, fun same s => by rw [same]⟩
  rw [map, KeyFields.mk.injEq, texts.symm]
  exact ⟨fun ⟨key, texts⟩ => ⟨key.symm, texts⟩, fun ⟨key, texts⟩ => ⟨key.symm, texts⟩⟩

/-- A request of characters is spelled by their units. -/
theorem isSpelled_ofText (request : KeyRequest) :
    (request.map Text.Wide.ofText).IsSpelled request := by
  rw [isSpelled_iff, map, map, Option.map_map]
  have same : Text.Wide.text ∘ Text.Wide.ofText = id := funext Text.Wide.text_ofText
  rw [same, Option.map_id_fun, id]

end KeyFields

namespace Session

/-! ## Histories -/

/-- The request that a step is about; a step that begins one is about none yet. -/
def Step.target? : Step → Option Nat
  | .begin => none
  | .setKey index _ | .setUniqueKey index _ | .look index | .send index _ => some index

/-- Whether the step is about another request than the one with the number. -/
def Step.isBeside (index : Nat) (step : Step) : Bool := step.target?.any (· != index)

/-- The key that a step sets in the request with a number. -/
def Step.key? (index : Nat) : Step → Option Bool
  | .setKey target value => if target = index then some value else none
  | _ => none

/-- The unique key that a step sets in the request with a number. -/
def Step.uniqueKey? (index : Nat) : Step → Option Text.Wide
  | .setUniqueKey target value => if target = index then some value else none
  | _ => none

/-- How many requests the steps begin. -/
def begun : List Step → Nat
  | [] => 0
  | .begin :: rest => begun rest + 1
  | _ :: rest => begun rest

/-- The steps behind the one that begins the request with a number. -/
def since : Nat → List Step → List Step
  | _, [] => []
  | 0, .begin :: rest => rest
  | index + 1, .begin :: rest => since index rest
  | index, _ :: rest => since index rest

/-- The last values that some steps write to the fields of the request with a number. -/
def lastWritten (index : Nat) (steps : List Step) : KeyFields Text.Wide where
  key := (steps.filterMap (Step.key? index)).getLast?
  uniqueKey := (steps.filterMap (Step.uniqueKey? index)).getLast?

/-- The last values that some steps write to the fields of a request since it was begun. -/
def written (index : Nat) (steps : List Step) : KeyFields Text.Wide :=
  lastWritten index (since index steps)

/-- What the steps on one request give back. -/
def answersOf (index : Nat) (session : Session) (steps : List Step) : List Answer :=
  ((steps.zip (session.answers steps)).filter fun pair => pair.1.target? == some index).map Prod.snd

/-! ## One step -/

variable {session other : Session} {index : Nat}

theorem fields_of_length_le (h : session.requests.length ≤ index) :
    session.fields index = .empty := by
  rw [fields, List.getD_eq_getElem?_getD, List.getElem?_eq_none h, Option.getD_none]

/-- Changing one request changes no other. -/
theorem fields_modify (session : Session) (target index : Nat)
    (change : KeyFields Text.Wide → KeyFields Text.Wide) :
    (session.modify target change).fields index =
      if target = index ∧ index < session.requests.length then change (session.fields index)
      else session.fields index := by
  simp only [fields, modify, List.getD_eq_getElem?_getD, List.getElem?_modify]
  by_cases inside : index < session.requests.length
  · by_cases same : target = index
    · simp [inside, same]
    · simp [inside, same]
  · simp [inside]

/-- The last value of a field is that of the later steps, or else that of the first one. -/
theorem getLast?_filterMap_cons {α β : Type} (f : α → Option β) (a : α) (l : List α) :
    ((a :: l).filterMap f).getLast? = (l.filterMap f).getLast?.or (f a) := by
  cases written : f a with
  | none => rw [List.filterMap_cons_none written, Option.or_none]
  | some value =>
    rw [List.filterMap_cons_some written, List.getLast?_cons]
    cases (l.filterMap f).getLast? <;> rfl

theorem lastWritten_cons (index : Nat) (step : Step) (rest : List Step) :
    lastWritten index (step :: rest) =
      (lastWritten index rest).orElse ⟨step.key? index, step.uniqueKey? index⟩ := by
  rw [lastWritten, getLast?_filterMap_cons, getLast?_filterMap_cons]
  rfl

theorem fields_begin (session : Session) (index : Nat) :
    (session.advance .begin).fields index = session.fields index := by
  rcases Nat.lt_trichotomy index session.requests.length with inside | rfl | beyond
  · simp [fields, advance, List.getElem?_append_left inside]
  · simp [fields, advance]
  · have few : (session.advance .begin).requests.length ≤ index := by
      simp only [advance, List.length_append, List.length_singleton]
      omega
    rw [fields_of_length_le few, fields_of_length_le (Nat.le_of_lt beyond)]

/-- A step puts what it writes to a request in place of its fields, if the request was begun. -/
theorem fields_advance (session : Session) (step : Step) (index : Nat) :
    (session.advance step).fields index =
      if index < session.requests.length then
        KeyFields.orElse ⟨step.key? index, step.uniqueKey? index⟩ (session.fields index)
      else session.fields index := by
  cases step with
  | begin => exact (fields_begin session index).trans (ite_self _).symm
  | look | send => exact (ite_self _).symm
  | setKey target value | setUniqueKey target value =>
    rw [advance, fields_modify]
    by_cases same : target = index
    · simp [same, Step.key?, Step.uniqueKey?, KeyFields.orElse, KeyFields.withKey,
        KeyFields.withUniqueKey]
    · simp [same, Step.key?, Step.uniqueKey?, KeyFields.orElse]

theorem fields_advance_of_ne {step : Step} (h : step.target? ≠ some index) :
    (session.advance step).fields index = session.fields index := by
  have unwritten : (⟨step.key? index, step.uniqueKey? index⟩ : KeyFields Text.Wide) = .empty := by
    cases step with
    | begin | look | send => rfl
    | setKey target value | setUniqueKey target value =>
      have other : target ≠ index := fun same => h (congrArg some same)
      simp [Step.key?, Step.uniqueKey?, other, KeyFields.empty]
  rw [fields_advance, unwritten, KeyFields.empty_orElse, ite_self]

theorem target?_of_isBeside {step : Step} (h : step.isBeside index = true) :
    step.target? ≠ some index := by
  intro same
  simp [Step.isBeside, same] at h

theorem client_advance (session : Session) (step : Step) :
    (session.advance step).client = session.client := by
  cases step <;> rfl

theorem length_advance (session : Session) (step : Step) :
    (session.advance step).requests.length = session.requests.length + begun [step] := by
  cases step <;> simp [advance, modify, begun]

theorem begun_cons (step : Step) (rest : List Step) :
    begun (step :: rest) = begun [step] + begun rest := by
  cases step <;> simp only [begun] <;> omega

/-! ## All steps -/

theorem client_after (session : Session) (steps : List Step) :
    (session.after steps).client = session.client := by
  induction steps generalizing session with
  | nil => rfl
  | cons step rest ih => exact (ih (session.advance step)).trans (client_advance session step)

theorem length_after (session : Session) (steps : List Step) :
    (session.after steps).requests.length = session.requests.length + begun steps := by
  induction steps generalizing session with
  | nil => rfl
  | cons step rest ih =>
    have advanced := ih (session.advance step)
    rw [length_advance, Nat.add_assoc, ← begun_cons] at advanced
    exact advanced

/-- A request that was begun before the steps has what they write to it, or else what it had. -/
theorem fields_after_of_lt (inside : index < session.requests.length) (steps : List Step) :
    (session.after steps).fields index =
      (lastWritten index steps).orElse (session.fields index) := by
  induction steps generalizing session with
  | nil => exact (KeyFields.empty_orElse _).symm
  | cons step rest ih =>
    have still : index < (session.advance step).requests.length := by
      rw [length_advance]
      omega
    have advanced := ih still
    rw [fields_advance, if_pos inside, ← KeyFields.orElse_assoc, ← lastWritten_cons] at advanced
    exact advanced

/-- A request that the steps begin has what they write to it since then. -/
theorem fields_after_begun (session : Session) (steps : List Step) (place : Nat) :
    (session.after steps).fields (session.requests.length + place) =
      lastWritten (session.requests.length + place) (since place steps) := by
  induction steps generalizing session place with
  | nil =>
    rw [after, List.foldl_nil, fields_of_length_le (Nat.le_add_right _ _)]
    cases place <;> rfl
  | cons step rest ih =>
    have advanced := ih (session.advance step)
    rw [length_advance] at advanced
    cases step with
    | begin =>
      cases place with
      | zero =>
        have inside : session.requests.length < (session.advance .begin).requests.length := by
          rw [length_advance]
          exact Nat.lt_succ_self _
        have first := fields_after_of_lt inside rest
        rwa [fields_begin, fields_of_length_le (Nat.le_refl _), KeyFields.orElse_empty] at first
      | succ place =>
        have later := advanced place
        rwa [Nat.add_assoc, Nat.add_comm (begun _) place] at later
    | setKey | setUniqueKey | look | send => exact advanced place

/-- The fields of a request are the last values written to them since it was begun. -/
theorem fields_after (client : Client) (steps : List Step) (index : Nat) :
    ((ofClient client).after steps).fields index = written index steps := by
  have begins := fields_after_begun (ofClient client) steps index
  rwa [show (ofClient client).requests.length + index = index from Nat.zero_add index] at begins

/-! ## Steps on other requests -/

/-- Two sessions that do not differ in what steps on one request see. -/
structure Agree (index : Nat) (session other : Session) : Prop where
  client : session.client = other.client
  length : session.requests.length = other.requests.length
  fields : session.fields index = other.fields index

theorem Agree.advance (h : Agree index session other) (step : Step) :
    Agree index (session.advance step) (other.advance step) where
  client := by rw [client_advance, client_advance, h.client]
  length := by rw [length_advance, length_advance, h.length]
  fields := by rw [fields_advance, fields_advance, h.length, h.fields]

theorem Agree.symm (h : Agree index session other) : Agree index other session :=
  ⟨h.client.symm, h.length.symm, h.fields.symm⟩

/-- A step on another request makes no difference. -/
theorem Agree.advance_left (h : Agree index session other) {step : Step}
    (beside : step.isBeside index = true) : Agree index (session.advance step) other where
  client := (client_advance session step).trans h.client
  length := by
    rw [length_advance, h.length]
    cases step with
    | begin => cases beside
    | setKey | setUniqueKey | look | send => rfl
  fields := (fields_advance_of_ne (target?_of_isBeside beside)).trans h.fields

theorem Agree.sent (h : Agree index session other) : session.sent index = other.sent index := by
  rw [Session.sent, Session.sent, Session.request, Session.request, h.client, h.fields]

theorem Agree.answer (h : Agree index session other) {step : Step}
    (about : step.target? = some index) : session.answer step = other.answer step := by
  cases step with
  | begin => cases about
  | setKey | setUniqueKey => rfl
  | look target =>
    cases about
    rw [Session.answer, Session.answer, h.fields]
  | send target transport =>
    cases about
    rw [Session.answer, Session.answer, h.sent]

theorem answersOf_cons (index : Nat) (session : Session) (step : Step) (rest : List Step) :
    answersOf index session (step :: rest) =
      (if step.target? = some index then [session.answer step] else []) ++
        answersOf index (session.advance step) rest := by
  rw [answersOf, answers, List.zip_cons_cons, List.filter_cons]
  by_cases about : step.target? = some index
  · rw [if_pos (beq_iff_eq.2 about), if_pos about]
    rfl
  · rw [if_neg (by simpa using about), if_neg about]
    rfl

theorem Agree.answersOf_filter (h : Agree index session other) (steps : List Step) :
    answersOf index session (steps.filter fun step => !step.isBeside index) =
      answersOf index other steps := by
  induction steps generalizing session other with
  | nil => rfl
  | cons step rest ih =>
    cases beside : step.isBeside index with
    | true =>
      rw [List.filter_cons_of_neg (by simp [beside]), answersOf_cons,
        if_neg (target?_of_isBeside beside), List.nil_append]
      exact ih (h.symm.advance_left beside).symm
    | false =>
      rw [List.filter_cons_of_pos (by simp [beside]), answersOf_cons, answersOf_cons,
        ih (h.advance step)]
      by_cases about : step.target? = some index
      · rw [if_pos about, if_pos about, h.answer about]
      · rw [if_neg about, if_neg about]

/-! ## Isolation -/

/-- What the requests of a client are to one another after some steps. -/
structure IsIsolated (client : Client) (steps : List Step) (session : Session) : Prop where
  /-- The client is what it was. -/
  unchanged : session.client = client
  /-- A request that is begun gets the next number. -/
  next : session.answer .begin = .begun (begun steps)
  /-- Looking at a request shows the last values written to its fields since it was begun, and
  no field that was not written. -/
  looked : ∀ index, session.answer (.look index) = .fields (written index steps)
  /-- There is one request that these fields spell. -/
  spelled : ∀ index, ∃! request, (written index steps).IsSpelled request
  /-- Texts without surrogates that lack their partners spell themselves. -/
  plain : ∀ index request, written index steps = request.map Text.Wide.ofText →
    (written index steps).IsSpelled request
  /-- Sending a request asks the server with the fields as they are spelled. -/
  sent : ∀ index request, (written index steps).IsSpelled request → ∀ transport,
    let started := client.start "/key" (Client.fields request)
    session.answer (.send index transport) = .sent started.request? (started.finish transport)
  /-- The server reads these fields in the request. -/
  read : ∀ index request, (written index steps).IsSpelled request → ∀ transport sent outcome,
    session.answer (.send index transport) = .sent (some sent) outcome →
      sent.query?.getD [] = Client.fields request
  /-- A request is sent, if its address can be built and its time limit makes a deadline. -/
  usable : ¬ client.Unformed → client.IsTimely → ∀ index, ∃ sent, ∀ transport,
    session.answer (.send index transport) =
      .sent (some sent) (Outcome.ofReply sent.url (transport sent))
  /-- Looking and sending change nothing. -/
  kept : ∀ index transport,
    session.advance (.look index) = session ∧ session.advance (.send index transport) = session
  /-- A step that is not about a request changes neither its fields nor what is sent for it. -/
  apart : ∀ step index, step.target? ≠ some index →
    (session.advance step).answer (.look index) = session.answer (.look index) ∧
      ∀ transport, (session.advance step).answer (.send index transport) =
        session.answer (.send index transport)
  /-- The steps on a request give back what they do without those on the others. -/
  alone : ∀ index,
    answersOf index (ofClient client) (steps.filter fun step => !step.isBeside index) =
      answersOf index (ofClient client) steps

/-- What sending a request gives back, by the request that its fields spell. -/
theorem answer_send (client : Client) (steps : List Step) {index : Nat} {request : KeyRequest}
    (spelled : (written index steps).IsSpelled request) (transport : Http.Transport) :
    let started := client.start "/key" (Client.fields request)
    ((ofClient client).after steps).answer (.send index transport) =
      .sent started.request? (started.finish transport) := by
  intro started
  have same : ((ofClient client).after steps).sent index = started := by
    rw [Session.sent, Session.request, client_after, fields_after,
      KeyFields.isSpelled_iff.1 spelled, Client.startKey, Client.query_eq_fields]
    rfl
  rw [answer, same]

/-- **Requests of one client are isolated from one another.**  For every client and every sequence
of steps, each request has the last values written to its fields since it was begun and is sent with
exactly what these spell; looking and sending change nothing, no step on a request changes another or
the client, and the steps on one request give back what they do alone. -/
theorem isIsolated_after (client : Client) (steps : List Step) :
    IsIsolated client steps ((ofClient client).after steps) where
  unchanged := client_after _ _
  next := by
    rw [answer, length_after]
    exact congrArg Answer.begun (Nat.zero_add _)
  looked index := by rw [answer, fields_after]
  spelled index :=
    ⟨_, KeyFields.isSpelled_iff.2 rfl, fun request spelled => (KeyFields.isSpelled_iff.1 spelled).symm⟩
  plain index request same := same ▸ KeyFields.isSpelled_ofText request
  sent index request spelled := answer_send client steps spelled
  read index request spelled transport sent outcome h := by
    rw [answer_send client steps spelled transport] at h
    obtain ⟨asked, -⟩ := Answer.sent.inj h
    exact Client.fields_of_waiting (Started.request?_eq_some_iff.1 asked)
  usable formed timely index := by
    let request := (written index steps).map Text.Wide.text
    have spelled : (written index steps).IsSpelled request := KeyFields.isSpelled_iff.2 rfl
    obtain ⟨deadline, checked⟩ := Client.check_isOk_iff.2 timely
    have built : (Url.parse? (client.baseUrl ++ "/key").toList).isSome :=
      Option.isSome_iff_ne_none.2 formed
    obtain ⟨sent, waits, -⟩ := Client.start_of_isSome checked built (Client.fields request)
    refine ⟨sent, fun transport => ?_⟩
    rw [answer_send client steps spelled transport, waits]
    rfl
  kept _ _ := ⟨rfl, rfl⟩
  apart step index about := by
    have fields : (((ofClient client).after steps).advance step).fields index =
        ((ofClient client).after steps).fields index := fields_advance_of_ne about
    refine ⟨by rw [answer, answer, fields], fun transport => ?_⟩
    rw [answer, answer, Session.sent, Session.sent, Session.request, Session.request, fields,
      client_advance]
  alone index := Agree.answersOf_filter ⟨rfl, rfl, rfl⟩ steps

/-- A request keeps a surrogate without its partner, but the same is sent for it as for another
request, which has the replacement character in its place. -/
theorem sent_surrogate :
    let steps := [.begin, .setUniqueKey 0 ⟨[0xD800]⟩, .begin, .setUniqueKey 1 ⟨[0xFFFD]⟩]
    let session := (ofClient (Client.ofAddress "http://h" none)).after steps
    session.answer (.look 0) = .fields ⟨none, some ⟨[0xD800]⟩⟩ ∧
      session.answer (.look 1) = .fields ⟨none, some ⟨[0xFFFD]⟩⟩ ∧
      (∀ transport, session.answer (.send 0 transport) = session.answer (.send 1 transport)) ∧
      ∃ sent, (∀ transport, session.answer (.send 0 transport) =
          .sent (some sent) (Outcome.ofReply sent.url (transport sent))) ∧
        sent.url = "http://h/key?unique_key=%EF%BF%BD" ∧
        sent.query?.getD [] = [("unique_key".toList, ['\uFFFD'])] := by
  intro steps session
  have same : session.sent 0 = session.sent 1 := by
    have spelled : session.request 0 = session.request 1 := by decide
    rw [Session.sent, Session.sent, spelled]
  let sent : Http.Request :=
    ⟨"http://h/key?unique_key=%EF%BF%BD", Client.requestHeaders, Client.defaultTimeout⟩
  have waits : session.sent 0 = .waiting sent :=
    Started.request?_eq_some_iff.1 (by decide +kernel)
  refine ⟨rfl, rfl, fun transport => ?_, sent, fun transport => ?_, rfl, by decide +kernel⟩
  · rw [answer, answer, same]
  · rw [answer, waits]
    rfl

/-- Two requests in turns: the second value written to the first one counts, and what is written to
the other one does not. -/
example (client : Client) :
    let steps := [.begin, .begin, .setKey 0 true, .setUniqueKey 1 (.ofText "s"), .look 1,
      .setKey 0 false]
    ((ofClient client).after steps).answer (.look 0) = .fields ⟨some false, none⟩ := rfl

end Session

end KeyClient
