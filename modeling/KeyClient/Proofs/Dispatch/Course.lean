import KeyClient.Dispatch
import KeyClient.Proofs.Client.Query

/-!
# The course of a run

A script leaves a request with the last value that it sets for each field (`request_run`).  A run
of the operation for keys takes one of six courses, and which one is decided by the settings of
the two flags, by the verdict of the hook and by what comes back (`course_iff`): a `Course` lists
every event of the run in its order, so that it says how often the hook is asked, the server is asked
for which pairs of names and values, and an outcome is reported.
-/

namespace KeyClient

namespace Hook

/-! ## What a script leaves -/

/-- The value that is written to the key. -/
def Write.key? : Write → Option Bool
  | key value => some value
  | uniqueKey _ => none

/-- The value that is written to the unique key. -/
def Write.uniqueKey? : Write → Option String
  | key _ => none
  | uniqueKey value => some value

/-- The request with the last value that was written to each of its fields. -/
def overwritten (request : KeyRequest) (writes : List Write) : KeyRequest where
  key := (writes.filterMap Write.key?).getLast?.or request.key
  uniqueKey := (writes.filterMap Write.uniqueKey?).getLast?.or request.uniqueKey

/-- One more write in front only shows where no later one hides it. -/
theorem overwritten_cons (request : KeyRequest) (write : Write) (writes : List Write) :
    overwritten request (write :: writes) = overwritten (write.apply request) writes := by
  cases write with
  | key value =>
    simp only [overwritten, List.filterMap_cons, Write.key?, Write.uniqueKey?, Write.apply,
      KeyFields.withKey, List.getLast?_cons]
    cases (writes.filterMap Write.key?).getLast? <;> rfl
  | uniqueKey value =>
    simp only [overwritten, List.filterMap_cons, Write.key?, Write.uniqueKey?, Write.apply,
      KeyFields.withUniqueKey, List.getLast?_cons]
    cases (writes.filterMap Write.uniqueKey?).getLast? <;> rfl

/-- The request that a script leaves. -/
theorem Script.request_run (script : Script) (m : Matches) (request : KeyRequest) :
    (script.run m request).request = overwritten request (script.writes m request) := by
  induction script generalizing request with
  | finish verdict => rfl
  | has flag next ih => exact ih _ request
  | names next ih => exact ih _ request
  | boolean flag next ih => exact ih _ request
  | text flag next ih => exact ih _ request
  | fields next ih => exact ih _ request
  | note next ih => exact ih request
  | set write next ih => rw [run, writes, ih, overwritten_cons]

end Hook

/-! ## Reading the flags -/

/-- The setting is missing or a truth value. -/
def Setting.IsBoolean (setting : Setting) : Prop :=
  setting = .missing ∨ ∃ b, setting = .value (.bool b)

/-- The setting is missing or a text. -/
def Setting.IsText (setting : Setting) : Prop :=
  setting = .missing ∨ ∃ s, setting = .value (.string s)

namespace Matches

theorem boolean?_of_isBoolean {m : Matches} {name : String} (h : (m.get name).IsBoolean) :
    ∃ value, m.boolean? name = .ok value ∧
      ∀ b, value = some b ↔ m.get name = .value (.bool b) := by
  unfold boolean?
  rcases h with h | ⟨b, h⟩
  · exact ⟨none, by rw [h]; rfl, fun b => by simp [h, Setting.missing]⟩
  · exact ⟨some b, by rw [h], fun c => by simp [h]⟩

theorem boolean?_of_not_isBoolean {m : Matches} {name : String} (h : ¬ (m.get name).IsBoolean) :
    m.boolean? name = .error (mismatch name "boolean" (m.get name)) := by
  unfold boolean?
  split
  · next undefined => exact absurd (.inl undefined) h
  · next b found => exact absurd (.inr ⟨b, found⟩) h
  · rfl

theorem text?_of_isText {m : Matches} {name : String} (h : (m.get name).IsText) :
    ∃ value, m.text? name = .ok value ∧
      ∀ s, value = some s ↔ m.get name = .value (.string s) := by
  unfold text?
  rcases h with h | ⟨s, h⟩
  · exact ⟨none, by rw [h]; rfl, fun s => by simp [h, Setting.missing]⟩
  · exact ⟨some s, by rw [h], fun t => by simp [h]⟩

theorem text?_of_not_isText {m : Matches} {name : String} (h : ¬ (m.get name).IsText) :
    m.text? name = .error (mismatch name "string" (m.get name)) := by
  unfold text?
  split
  · next undefined => exact absurd (.inl undefined) h
  · next s found => exact absurd (.inr ⟨s, found⟩) h
  · rfl

end Matches

namespace Dispatch

open Operation

/-- The request has exactly those fields for which there is a setting. -/
structure Carries (request : KeyRequest) (m : Matches) : Prop where
  key : ∀ b, request.key = some b ↔ m.get keyFlag.name = .value (.bool b)
  uniqueKey : ∀ s, request.uniqueKey = some s ↔ m.get uniqueKeyFlag.name = .value (.string s)

/-- There is only one request with the fields of the settings. -/
theorem Carries.unique {r r' : KeyRequest} {m : Matches} (h : Carries r m) (h' : Carries r' m) :
    r = r' := by
  obtain ⟨key, uniqueKey⟩ := r
  obtain ⟨key', uniqueKey'⟩ := r'
  have sameKey : key = key' := Option.ext fun b => (h.key b).trans (h'.key b).symm
  have sameUniqueKey : uniqueKey = uniqueKey' :=
    Option.ext fun s => (h.uniqueKey s).trans (h'.uniqueKey s).symm
  rw [sameKey, sameUniqueKey]

theorem ofFlags_of_not_isBoolean {m : Matches} (h : ¬ (m.get keyFlag.name).IsBoolean) :
    ofFlags m = .error (Matches.mismatch keyFlag.name "boolean" (m.get keyFlag.name)) := by
  rw [ofFlags, Matches.boolean?_of_not_isBoolean h]
  rfl

theorem ofFlags_of_not_isText {m : Matches} (right : (m.get keyFlag.name).IsBoolean)
    (wrong : ¬ (m.get uniqueKeyFlag.name).IsText) :
    ofFlags m =
      .error (Matches.mismatch uniqueKeyFlag.name "string" (m.get uniqueKeyFlag.name)) := by
  obtain ⟨key, found, -⟩ := Matches.boolean?_of_isBoolean right
  rw [ofFlags, found, Matches.text?_of_not_isText wrong]
  rfl

theorem ofFlags_of_isText {m : Matches} (boolean : (m.get keyFlag.name).IsBoolean)
    (text : (m.get uniqueKeyFlag.name).IsText) :
    ∃ request, ofFlags m = .ok request ∧ Carries request m := by
  obtain ⟨key, foundKey, isKey⟩ := Matches.boolean?_of_isBoolean boolean
  obtain ⟨uniqueKey, foundUniqueKey, isUniqueKey⟩ := Matches.text?_of_isText text
  refine ⟨⟨key, uniqueKey⟩, ?_, isKey, isUniqueKey⟩
  rw [ofFlags, foundKey, foundUniqueKey]
  rfl

/-! ## Courses -/

/-- What happens up to the end of the hook: it is asked once, about the request of the flags. -/
def asked (script : Hook.Script) (m : Matches) (request : KeyRequest) : List Event :=
  .log (stageEntry "flags applied" request) :: .consult m request ::
    (script.run m request).sightings.map .note

/-- What happens after the hook accepted: the server is asked once, for the resource `/key` with the
fields of the request, each as a name and a value. -/
def forwarded (client : Client) (request : KeyRequest) : List Event :=
  let pairs := Client.fields request
  .log (stageEntry "sending" request) :: .get "/key" pairs ::
    (client.startEntries "/key" pairs).map .log ++
    (client.start "/key" pairs).request?.toList.map .send

/-- The outcome of asking the server, or the failure to put in words what was raised. -/
def ended (client : Client) (transport : Http.Transport) (request : KeyRequest) :
    Except Failure Outcome :=
  (client.start "/key" (Client.fields request)).finish transport

/-- The courses that a run can take: all its events in their order, and its result. -/
inductive Course (client : Client) (script : Hook.Script) (transport : Http.Transport)
    (m : Matches) : List Event → Except Failure Unit → Prop
  | wrongKey (wrong : ¬ (m.get "key").IsBoolean) :
      Course client script transport m []
        (.error (.app (.validation "Flag \"--key\" is not a boolean"
          (.object (("name", .string "key") ::
            (m.get "key").value?.toList.map ("value", ·))))))
  | wrongUniqueKey (right : (m.get "key").IsBoolean) (wrong : ¬ (m.get "unique-key").IsText) :
      Course client script transport m []
        (.error (.app (.validation "Flag \"--unique-key\" is not a string"
          (.object (("name", .string "unique-key") ::
            (m.get "unique-key").value?.toList.map ("value", ·))))))
  | rejected {request : KeyRequest} {reason : String} (carries : Carries request m)
      (boolean : (m.get "key").IsBoolean) (text : (m.get "unique-key").IsText)
      (verdict : (script.run m request).verdict = .reject reason) :
      Course client script transport m (asked script m request)
        (.error (.app (.override "key-get" reason)))
  | raised {request : KeyRequest} {failure : Failure} (carries : Carries request m)
      (boolean : (m.get "key").IsBoolean) (text : (m.get "unique-key").IsText)
      (verdict : (script.run m request).verdict = .raise failure) :
      Course client script transport m (asked script m request) (.error failure)
  | reported {request : KeyRequest} (carries : Carries request m)
      (boolean : (m.get "key").IsBoolean) (text : (m.get "unique-key").IsText)
      (verdict : (script.run m request).verdict = .accept) {outcome : Outcome}
      (known : ended client transport (Hook.overwritten request (script.writes m request)) =
        .ok outcome) :
      Course client script transport m
        (asked script m request ++
          forwarded client (Hook.overwritten request (script.writes m request)) ++
          [.report (Report.ofOutcome outcome)])
        (.ok ())
  | unreported {request : KeyRequest} (carries : Carries request m)
      (boolean : (m.get "key").IsBoolean) (text : (m.get "unique-key").IsText)
      (verdict : (script.run m request).verdict = .accept) {failure : Failure}
      (unknown : ended client transport (Hook.overwritten request (script.writes m request)) =
        .error failure) :
      Course client script transport m
        (asked script m request ++
          forwarded client (Hook.overwritten request (script.writes m request)))
        (.error failure)

section

variable {client : Client} {script : Hook.Script} {transport : Http.Transport} {m : Matches}

theorem run_of_ofFlags_error {error : AppError} (h : ofFlags m = .error error) :
    run client script.run transport m = ([], .error (.app error)) := by
  rw [run, start, h]
  rfl

theorem run_of_reject {request : KeyRequest} {reason : String} (h : ofFlags m = .ok request)
    (verdict : (script.run m request).verdict = .reject reason) :
    run client script.run transport m =
      (asked script m request, .error (.app (.override Operation.keyGet.name reason))) := by
  simp only [run, start, h, consult, verdict, verdictFailure?]
  rfl

theorem run_of_raise {request : KeyRequest} {failure : Failure} (h : ofFlags m = .ok request)
    (verdict : (script.run m request).verdict = .raise failure) :
    run client script.run transport m = (asked script m request, .error failure) := by
  simp only [run, start, h, consult, verdict, verdictFailure?]
  rfl

theorem run_of_accept {request : KeyRequest} (h : ofFlags m = .ok request)
    (verdict : (script.run m request).verdict = .accept) :
    run client script.run transport m =
      (asked script m request ++
          forwarded client (Hook.overwritten request (script.writes m request)) ++
          (conclude (ended client transport
            (Hook.overwritten request (script.writes m request)))).1,
        (conclude (ended client transport
          (Hook.overwritten request (script.writes m request)))).2) := by
  simp only [run, start, h, consult, verdict, verdictFailure?, send, get, Run.finish,
    script.request_run, Client.query_eq_fields]
  rfl

/-- Every run takes one of the courses. -/
theorem course_run :
    Course client script transport m (run client script.run transport m).1
      (run client script.run transport m).2 := by
  by_cases boolean : (m.get keyFlag.name).IsBoolean
  · by_cases text : (m.get uniqueKeyFlag.name).IsText
    · obtain ⟨request, flags, carries⟩ := ofFlags_of_isText boolean text
      cases verdict : (script.run m request).verdict with
      | accept =>
        rw [run_of_accept flags verdict]
        cases answer :
          ended client transport (Hook.overwritten request (script.writes m request)) with
        | ok outcome => exact .reported carries boolean text verdict answer
        | error failure =>
          simp only [conclude, List.append_nil]
          exact .unreported carries boolean text verdict answer
      | reject reason =>
        rw [run_of_reject flags verdict]
        exact .rejected carries boolean text verdict
      | raise failure =>
        rw [run_of_raise flags verdict]
        exact .raised carries boolean text verdict
    · rw [run_of_ofFlags_error (ofFlags_of_not_isText boolean text)]
      exact .wrongUniqueKey boolean text
  · rw [run_of_ofFlags_error (ofFlags_of_not_isBoolean boolean)]
    exact .wrongKey boolean

/-- No run takes two courses. -/
theorem Course.run_eq {events : List Event} {result : Except Failure Unit}
    (h : Course client script transport m events result) :
    run client script.run transport m = (events, result) := by
  have request_eq : ∀ {request : KeyRequest}, (m.get keyFlag.name).IsBoolean →
      (m.get uniqueKeyFlag.name).IsText → Carries request m → ofFlags m = .ok request := by
    intro request boolean text carries
    obtain ⟨found, flags, carries'⟩ := ofFlags_of_isText boolean text
    rw [flags, carries.unique carries']
  cases h with
  | wrongKey wrong => exact run_of_ofFlags_error (ofFlags_of_not_isBoolean wrong)
  | wrongUniqueKey right wrong => exact run_of_ofFlags_error (ofFlags_of_not_isText right wrong)
  | rejected carries boolean text verdict =>
    exact run_of_reject (request_eq boolean text carries) verdict
  | raised carries boolean text verdict =>
    exact run_of_raise (request_eq boolean text carries) verdict
  | reported carries boolean text verdict known =>
    rw [run_of_accept (request_eq boolean text carries) verdict]
    simp only [known, conclude, reportEvent]
  | unreported carries boolean text verdict unknown =>
    rw [run_of_accept (request_eq boolean text carries) verdict]
    simp only [unknown, conclude, List.append_nil]

end

/-- **The course of a run.**  Carrying out the operation for keys takes exactly one course, for
all matches, hooks, servers and replies. -/
theorem course_iff (client : Client) (script : Hook.Script) (transport : Http.Transport)
    (m : Matches) (events : List Event) (result : Except Failure Unit) :
    (startNamed client script.run "key-get" m).finish transport = (events, result) ↔
      Course client script transport m events result := by
  have named : startNamed client script.run "key-get" m = start client script.run m := rfl
  rw [named]
  change run client script.run transport m = (events, result) ↔ _
  constructor
  · intro h
    have course : Course client script transport m (run client script.run transport m).1
        (run client script.run transport m).2 := course_run
    rwa [h] at course
  · exact Course.run_eq

end Dispatch

end KeyClient
