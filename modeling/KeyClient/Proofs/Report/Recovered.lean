import KeyClient.Proofs.Value.Layout
import KeyClient.Proofs.Json.Token
import KeyClient.Report

/-!
# What a report tells

Every report begins with the same line, whatever became of the request.  Yet how the request ended
can be read from the report alone (`Report.read?`): a success begins with its status, and a failure
ends with its fault, or with its fault and its status.  No header, address, body or message can
change that, whatever is in it and wherever its text is broken (`Report.read?_of_isNumbered`).
-/

namespace KeyClient

/-- What a request comes down to. -/
structure Summary where
  /-- How it failed, if it did. -/
  fault : Option RequestFault
  /-- The status of the answer, if there was one. -/
  status : Option Nat
deriving DecidableEq, Repr

namespace Outcome

/-- What an outcome comes down to. -/
def summary : Outcome → Summary
  | .ok success => ⟨none, some success.status⟩
  | .error error => ⟨some error.fault, error.status⟩

/-- The status of an outcome is a number that is written with all of its digits. -/
def IsNumbered (outcome : Outcome) : Prop :=
  ∀ status, outcome.summary.status = some status → status < Number.exactBound

/-- What may come of asking a server for the resource at a path.  The statuses of its responses are
whole numbers that are written out; those of real responses have three digits. -/
inductive IsResult : Outcome → Prop
  | finish (client : Client) (path : String) (query : Url.Query) (transport : Http.Transport)
      (numbered : ∀ request response, transport request = .response response →
        response.status < Number.exactBound)
      {outcome : Outcome} (known : (client.start path query).finish transport = .ok outcome) :
      IsResult outcome

/-- The status of an outcome is that of the response. -/
theorem isNumbered_of_ofReply {url : String} {reply : Http.Reply} {outcome : Outcome}
    (numbered : ∀ response, reply = .response response → response.status < Number.exactBound)
    (known : ofReply url reply = .ok outcome) : IsNumbered outcome := by
  have quoted : ∀ {said : Except Failure String} {quote : String → Outcome},
      said.map quote = .ok outcome → ∃ words, quote words = outcome := by
    intro said quote known
    cases said with
    | error failure => cases known
    | ok words => exact ⟨words, Except.ok.inj known⟩
  intro status answered
  cases reply with
  | rejected reason =>
    obtain ⟨words, rfl⟩ := quoted known
    cases answered
  | response response =>
    have bound := numbered response rfl
    unfold ofReply at known
    dsimp only at known
    split at known
    · obtain rfl := Except.ok.inj known
      cases answered
      exact bound
    · split at known
      · obtain ⟨words, rfl⟩ := quoted known
        cases answered
        exact bound
      · obtain rfl := Except.ok.inj known
        cases answered
        exact bound

theorem IsResult.isNumbered {outcome : Outcome} (h : IsResult outcome) : IsNumbered outcome := by
  obtain ⟨client, path, query, transport, numbered, known⟩ := h
  cases started : client.start path query with
  | waiting request =>
    rw [started] at known
    exact isNumbered_of_ofReply (fun response => numbered request response) known
  | settled settled =>
    rw [started] at known
    obtain rfl := Except.ok.inj known
    intro status answered
    unfold Client.start at started
    split at started
    · cases started
      cases answered
    · split at started
      · cases started
        cases answered
      · cases started

end Outcome

namespace Report

open Text Display

/-! ## Reading a report -/

/-- The fault that a word quotes. -/
def fault? (word : String) : Option RequestFault :=
  RequestFault.all.find? fun fault => word == s!"'{fault.name}'"

/-- The number that a word spells. -/
def number (word : String) : Nat := Nat.ofDigitChars 10 word.toList 0

/-- What the words of a report come down to. -/
def readWords? : List String → Option Summary
  | "success" :: "\x7b" :: "status:" :: status :: _ =>
    some ⟨none, some (number status)⟩
  | words =>
    match words.reverse with
    | "\x7d" :: status :: "status:" :: fault :: _ =>
      (fault? fault).map fun fault => ⟨some fault, some (number status)⟩
    | "\x7d" :: fault :: _ => (fault? fault).map fun fault => ⟨some fault, none⟩
    | _ => none

/-- What a report comes down to. -/
def read? (report : String) : Option Summary := readWords? (words report.toList)

theorem fault?_quoted (fault : RequestFault) : fault? s!"'{fault.name}'" = some fault := by
  cases fault <;> decide

/-! ## Words of a report -/

theorem words_ofValue {ms : Members} (some : ms ≠ []) :
    words (ofValue (.object ms)).toList =
      "success" :: "\x7b" :: ((members .full 1 2 0 ms).1.flatMap words ++ ["\x7d"]) := by
  have parts : (ofValue (.object ms)).toList =
      headline.toList ++ '\n' :: ((Value.object ms).display .full).toList := by
    rw [ofValue, String.toList_append, String.toList_append, List.append_assoc]
    rfl
  have front : words headline.toList = ["success"] := by decide
  rw [parts, words_append_cons rfl, front, words_display_object some]
  rfl

theorem words_digits (n : Nat) : words (toString n).toList = [toString n] := by
  have digits : (toString n).toList = Nat.toDigits 10 n := Nat.toList_repr
  have apart : ∀ c ∈ (toString n).toList, isGap c = false := by
    intro c mem
    rw [digits] at mem
    have digit := isDigit_of_mem_toDigits mem
    refine Bool.eq_false_iff.2 fun gap => ?_
    simp only [isGap, Bool.or_eq_true, beq_iff_eq] at gap
    rcases gap with (rfl | rfl) | rfl <;> exact absurd digit (by decide)
  rw [words_eq_singleton (by rw [digits]; exact Nat.toDigits_ne_nil) apart, String.ofList_toList]

/-- A member with a status has two words. -/
theorem words_status {status : Nat} (small : status < Number.exactBound) (last : Nat)
    (rest : Members) :
    (members .full 1 2 last (("status", .ofNat status) :: rest)).1.flatMap words =
      "status:" :: toString status :: (members .full 1 2 last rest).1.flatMap words := by
  have shown : value .full 1 2 last (.ofNat status) = ((toString status).toList, last) :=
    congrArg (fun text : String => (text.toList, last)) (Number.text_ofNat small)
  have name : words (key "status" ++ [':']) = ["status:"] := by decide
  rw [members_cons, shown, List.flatMap_cons, words_entry, name, words_digits]
  rfl

/-- A member with a fault has two words. -/
theorem words_fault (fault : RequestFault) (last : Nat) (rest : Members) :
    (members .full 1 2 last (("kind", .string fault.name) :: rest)).1.flatMap words =
      "kind:" :: s!"'{fault.name}'" :: (members .full 1 2 last rest).1.flatMap words := by
  have whole : string .full 2 fault.name.toList = s!"'{fault.name}'".toList := by
    cases fault <;> decide +kernel
  have shown : value .full 1 2 last (.string fault.name) = (s!"'{fault.name}'".toList, last) :=
    congrArg (fun text => (text, last)) whole
  have name : words (key "kind" ++ [':']) = ["kind:"] := by decide
  have quoted : words s!"'{fault.name}'".toList = [s!"'{fault.name}'"] := by
    cases fault <;> decide
  rw [members_cons, shown, List.flatMap_cons, words_entry, name, quoted]
  rfl

/-! ## Reports on successes and failures -/

theorem number_repr (n : Nat) : number n.repr = n := by
  rw [number, Nat.toList_repr, Nat.ofDigitChars_toDigits (by decide) (by decide)]

theorem read?_success {success : Success} (small : success.status < Number.exactBound) :
    read? (ofOutcome (.ok success)) = some ⟨none, some success.status⟩ := by
  have shown : words (ofOutcome (.ok success)).toList =
      "success" :: "\x7b" :: "status:" :: toString success.status ::
        ((members .full 1 2 0 [("headers", .object success.headers), ("inner", .null)]).1.flatMap
          words ++ ["\x7d"]) := by
    refine (words_ofValue (List.cons_ne_nil _ _)).trans ?_
    rw [words_status small, List.cons_append, List.cons_append]
  rw [read?, shown, readWords?, Nat.toString_eq_repr, number_repr]

/-- The words of a report on a failure begin with the name of the error and end with the details that
only failed requests have. -/
theorem words_failure (error : RequestError) :
    ∃ middle last, words (ofOutcome (.error error)).toList =
      "success" :: "\x7b" :: "name:" ::
        (middle ++ (members .full 1 2 last error.toError.details).1.flatMap words ++ ["\x7d"]) := by
  obtain ⟨front, same⟩ : ∃ front, error.toError.toValue =
      .object ((("name", .string error.toError.name) :: front) ++ error.toError.details) := ⟨_, rfl⟩
  obtain ⟨last, behind⟩ := members_append .full 1 2 0
    (("name", .string error.toError.name) :: front) error.toError.details
  have name : words (key "name" ++ [':']) = ["name:"] := by decide
  refine ⟨words (value .full 1 2 0 (.string error.toError.name)).1 ++
    (members .full 1 2 (value .full 1 2 0 (.string error.toError.name)).2 front).1.flatMap words,
    last, ?_⟩
  have some : ("name", Value.string error.toError.name) :: front ++ error.toError.details ≠ [] :=
    List.cons_ne_nil _ _
  rw [ofOutcome, Outcome.toValue, same, words_ofValue some, behind, List.flatMap_append,
    members_cons, List.flatMap_cons, words_entry, name, List.singleton_append, List.cons_append,
    List.cons_append, List.cons_append]

theorem read?_failure {error : RequestError}
    (small : ∀ status, error.status = some status → status < Number.exactBound) :
    read? (ofOutcome (.error error)) = some ⟨some error.fault, error.status⟩ := by
  obtain ⟨middle, last, shown⟩ := words_failure error
  rw [read?, shown]
  cases answered : error.status with
  | none =>
    have details : error.toError.details = [("kind", .string error.fault.name)] := by
      simp [RequestError.toError, AppError.details, answered]
    rw [details, words_fault]
    simp [readWords?, members, fault?_quoted]
  | some status =>
    have details : error.toError.details =
        [("kind", .string error.fault.name), ("status", .ofNat status)] := by
      simp [RequestError.toError, AppError.details, answered, Value.ofNat]
    rw [details, words_fault, words_status (small status answered)]
    simp [readWords?, members, fault?_quoted, number_repr]

/-- What became of a request can be read from the report on it. -/
theorem read?_of_isNumbered {outcome : Outcome} (h : outcome.IsNumbered) :
    read? (ofOutcome outcome) = some outcome.summary := by
  cases outcome with
  | ok success => exact read?_success (h success.status rfl)
  | error error => exact read?_failure h

/-- The first line of a report is always the same. -/
theorem begins_ofOutcome (outcome : Outcome) :
    "success\n".toList <+: (ofOutcome outcome).toList := by
  rw [ofOutcome, ofValue, String.toList_append]
  exact List.prefix_append _ _

/-- **Reports tell outcomes apart.**  Whatever may come of asking a server, the report on it begins
with the one line of all reports; whether the request succeeded, its status and its fault can be read
from the report, and so two outcomes that differ in one of these have different reports. -/
theorem tells_apart {outcome outcome' : Outcome} (result : outcome.IsResult)
    (result' : outcome'.IsResult) :
    "success\n".toList <+: (ofOutcome outcome).toList ∧
      read? (ofOutcome outcome) = some outcome.summary ∧
      (outcome.summary ≠ outcome'.summary → ofOutcome outcome ≠ ofOutcome outcome') := by
  refine ⟨begins_ofOutcome outcome, read?_of_isNumbered result.isNumbered, fun differ same => ?_⟩
  have read := read?_of_isNumbered result.isNumbered
  rw [same, read?_of_isNumbered result'.isNumbered] at read
  exact differ (Option.some.inj read).symm

/-- A body that looks like the end of another report, and a name of a header that looks like the
beginning of one. -/
theorem tells_apart_forged :
    let client := Client.ofAddress "http://h" none
    let missing : Http.Response :=
      ⟨404, "", [], .ok (Text.Utf8.encode "x', kind: 'CommunicationError' \x7d".toList)⟩
    let forged : Http.Transport := fun _ => .response missing
    let headed : Http.Transport := fun _ => .response ⟨200, "", [("kind", "InvalidRequest")], .ok []⟩
    let refused := Outcome.unexpected "http://h/key" missing "x', kind: 'CommunicationError' \x7d"
    let done : Outcome := .ok ⟨200, [("kind", .string "InvalidRequest")]⟩
    (client.startKey .empty).finish forged = .ok refused ∧
      (client.startKey .empty).finish headed = .ok done ∧
      read? (ofOutcome refused) = some ⟨some .unexpectedResponse, some 404⟩ ∧
      ofOutcome refused ≠ ofOutcome done := by
  intro client missing forged headed refused done
  have started : client.startKey .empty =
      .waiting ⟨"http://h/key", Client.requestHeaders, Client.defaultTimeout⟩ :=
    Started.request?_eq_some_iff.1 (by decide +kernel)
  have body : missing.text = .ok "x', kind: 'CommunicationError' \x7d" :=
    congrArg Except.ok (by decide +kernel)
  have record : Http.Headers.record [("kind", "InvalidRequest")] =
      [("kind", .string "InvalidRequest")] := by
    with_unfolding_all rfl
  have refuses : (client.startKey .empty).finish forged = .ok refused := by
    rw [started, Started.finish, Outcome.ofReply, body]
    rfl
  have ends : (client.startKey .empty).finish headed = .ok done := by
    rw [started, Started.finish, Outcome.ofReply, record]
    rfl
  have isRefused : refused.IsResult := .finish client KeyRequest.path [] forged (fun _ _ reply => by
    cases reply
    decide) refuses
  have isDone : done.IsResult := .finish client KeyRequest.path [] headed (fun _ _ reply => by
    cases reply
    decide) ends
  have outcome : refused.summary = ⟨some .unexpectedResponse, some 404⟩ := rfl
  have differ : refused.summary ≠ done.summary := by decide +kernel
  have told := tells_apart isRefused isDone
  exact ⟨refuses, ends, told.2.1.trans (congrArg some outcome), told.2.2 differ⟩

end Report

end KeyClient
