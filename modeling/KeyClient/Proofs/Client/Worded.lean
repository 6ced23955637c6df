import KeyClient.Client
import KeyClient.Proofs.Text.Utf8

/-!
# What can be put in words

An outcome quotes what was raised in place of an answer.  Most things have a text, but an object that
hides its conversion has none, nor has an array with such an object in it (`Value.Textless`).  The
outcome of a request is a failure exactly if the reply raises something without a text where it must
be quoted (`Outcome.ofReply_eq_error_iff`).
-/

namespace KeyClient

/-! ## Values without a text -/

/-- Values that have no text. -/
inductive Value.Textless : Value → Prop
  | object {members : Members} (hidden : (members.lookup "toString").isSome) :
      Textless (.object members)
  | array {items : List Value} {item : Value} (member : item ∈ items) (textless : Textless item) :
      Textless (.array items)

namespace Value

@[simp] theorem textless_object_iff {members : Members} :
    Textless (.object members) ↔ (members.lookup "toString").isSome :=
  ⟨fun | .object hidden => hidden, .object⟩

@[simp] theorem textless_array_iff {items : List Value} :
    Textless (.array items) ↔ ∃ item ∈ items, Textless item :=
  ⟨fun | .array member textless => ⟨_, member, textless⟩, fun ⟨_, member, textless⟩ =>
    .array member textless⟩

mutual

theorem text?_eq_none_iff : ∀ v : Value, v.text? = none ↔ v.Textless
  | .undefined | .null | .bool _ | .number _ | .string _ => by
    simp only [text?, reduceCtorEq, false_iff]
    rintro ⟨⟩
  | .array items => by
    rw [text?, Option.map_eq_none_iff, itemTexts?_eq_none_iff items, textless_array_iff]
  | .object members => by
    rw [textless_object_iff, text?, conversion]
    split
    · next hidden => exact iff_of_true rfl hidden
    · next shown => exact iff_of_false (by simp) shown

theorem itemTexts?_eq_none_iff :
    ∀ items : List Value, itemTexts? items = none ↔ ∃ item ∈ items, Textless item
  | [] => by simp [itemTexts?]
  | item :: rest => by
    have first := text?_eq_none_iff item
    have others := itemTexts?_eq_none_iff rest
    have missing : item.isNullish = true → ¬ item.Textless := by
      rintro nullish ⟨⟩ <;> cases nullish
    simp only [List.mem_cons, exists_eq_or_imp, itemTexts?, ← others]
    cases nullish : item.isNullish with
    | true => cases itemTexts? rest <;> simp [missing nullish]
    | false =>
      rw [← first]
      cases item.text? <;> cases itemTexts? rest <;> simp

end

end Value

/-! ## What is raised -/

namespace Http

/-- What is raised cannot be put in words: trying to do so fails. -/
inductive Raised.Wordless : Raised → Failure → Prop
  | value {v : Value} (textless : v.Textless) :
      Wordless (.value v) (.other "TypeError" "Cannot convert object to primitive value")
  | other {failure : Failure} : Wordless (.other (.error failure)) failure

theorem Raised.text_eq_error_iff {reason : Raised} {failure : Failure} :
    reason.text = .error failure ↔ reason.Wordless failure := by
  cases reason with
  | error message =>
    refine iff_of_false (by simp [text]) ?_
    rintro ⟨⟩
  | value v =>
    cases read : v.text? with
    | none =>
      simp only [text, read, Option.elim_none, Except.error.injEq, Failure.unconvertible]
      constructor
      · rintro rfl
        exact .value ((Value.text?_eq_none_iff v).1 read)
      · rintro ⟨-⟩
        rfl
    | some s =>
      refine iff_of_false (by simp [text, read]) ?_
      rintro ⟨textless⟩
      rw [(Value.text?_eq_none_iff v).2 textless] at read
      cases read
  | other conversion =>
    constructor
    · rintro rfl
      exact .other
    · rintro ⟨⟩
      rfl

/-- The status of the response says that the server carried out the request. -/
def IsFine (response : Response) : Prop := 200 ≤ response.status ∧ response.status ≤ 299

theorem isSuccess_iff (response : Response) : response.isSuccess = true ↔ IsFine response := by
  simp [Response.isSuccess, IsFine]

theorem not_isFine {response : Response} (failure : response.isSuccess = false) :
    ¬ IsFine response := by
  rw [← isSuccess_iff, failure]
  exact Bool.false_ne_true

/-- What the outcome of a request has to quote from the reply to it. -/
inductive Reply.Raises : Reply → Raised → Prop
  | rejected {reason : Raised} : Raises (.rejected reason) reason
  | unreadable {response : Response} {reason : Raised} (outside : ¬ IsFine response)
      (broken : response.body = .error reason) : Raises (.response response) reason

/-- Whatever the reply raises can be put in words. -/
def Reply.IsWorded (reply : Reply) : Prop :=
  ∀ reason failure, reply.Raises reason → ¬ reason.Wordless failure

/-- What is raised by the network is an error, and errors have a message. -/
theorem Reply.isWorded_of_error {reply : Reply}
    (errors : ∀ reason, reply.Raises reason → ∃ message, reason = .error message) :
    reply.IsWorded := by
  intro reason failure raises wordless
  obtain ⟨message, rfl⟩ := errors reason raises
  cases wordless

theorem Response.text_eq_error_iff {response : Response} {reason : Raised} :
    response.text = .error reason ↔ response.body = .error reason := by
  rw [text]
  cases response.body <;> simp [Except.map]

theorem Response.body_of_text_ok {response : Response} {text : String}
    (h : response.text = .ok text) : ∃ octets, response.body = .ok octets := by
  cases body : response.body with
  | ok octets => exact ⟨octets, rfl⟩
  | error reason =>
    rw [Response.text_eq_error_iff.2 body] at h
    cases h

/-- A text that begins with no byte order mark is read back from the octets of a body, unless the
server did not carry out the request and there is no body. -/
theorem Response.text_of_encode {response : Response} {cs : List Char} (outside : ¬ IsFine response)
    (status : response.status ≠ 304) (encoded : response.body = .ok (Text.Utf8.encode cs))
    (unmarked : cs.head? ≠ some '\uFEFF') : response.text = .ok (String.ofList cs) := by
  have bodied : Response.bodiless.contains response.status = false := by
    rw [IsFine] at outside
    simp only [bodiless, List.contains_eq_mem, List.mem_cons, List.not_mem_nil, or_false,
      decide_eq_false_iff_not]
    omega
  have kept : Text.Utf8.dropMarks mostMarks cs = cs := by
    cases cs with
    | nil => rfl
    | cons c cs => exact if_neg fun mark => unmarked (congrArg some mark)
  rw [text, encoded, Except.map, bodied, Text.Utf8.decode_encode, kept]
  rfl

end Http

namespace Outcome

open Http

/-- **When a reply has no outcome.**  The outcome of a request is a failure exactly if the reply
raises something where it is to be quoted that cannot be put in words. -/
theorem ofReply_eq_error_iff {url : String} {reply : Reply} {failure : Failure} :
    ofReply url reply = .error failure ↔ ∃ reason, reply.Raises reason ∧ reason.Wordless failure := by
  have quoted : ∀ (reason : Raised) (quote : String → Outcome),
      reason.text.map quote = .error failure ↔ reason.Wordless failure := by
    intro reason quote
    rw [← Raised.text_eq_error_iff]
    cases reason.text <;> simp [Except.map]
  cases reply with
  | rejected reason =>
    rw [ofReply, quoted]
    constructor
    · exact fun wordless => ⟨reason, .rejected, wordless⟩
    · rintro ⟨_, ⟨⟩, wordless⟩
      exact wordless
  | response response =>
    rw [ofReply]
    cases success : response.isSuccess with
    | true =>
      refine iff_of_false (by simp) ?_
      rintro ⟨_, _ | outside, -⟩
      exact outside ((isSuccess_iff response).1 success)
    | false =>
      rw [if_neg Bool.false_ne_true]
      cases body : response.text with
      | error reason =>
        dsimp only
        rw [quoted]
        have broken := Response.text_eq_error_iff.1 body
        constructor
        · exact fun wordless => ⟨reason, .unreadable (not_isFine success) broken, wordless⟩
        · rintro ⟨_, _ | ⟨-, broken'⟩, wordless⟩
          obtain rfl := Except.error.inj (broken.symm.trans broken')
          exact wordless
      | ok text =>
        refine iff_of_false (by simp) ?_
        rintro ⟨_, _ | ⟨-, broken⟩, -⟩
        rw [Response.text_eq_error_iff.2 broken] at body
        cases body

/-- A reply that can be put in words has an outcome. -/
theorem exists_ofReply_of_isWorded {reply : Reply} (worded : reply.IsWorded) (url : String) :
    ∃ outcome, ofReply url reply = .ok outcome := by
  cases found : ofReply url reply with
  | ok outcome => exact ⟨outcome, rfl⟩
  | error failure =>
    obtain ⟨reason, raises, wordless⟩ := ofReply_eq_error_iff.1 found
    exact absurd wordless (worded reason failure raises)

end Outcome

/-- A request comes to an outcome if what comes back can be put in words. -/
theorem Started.exists_finish_of_isWorded {transport : Http.Transport}
    (worded : ∀ request, (transport request).IsWorded) (started : Started) :
    ∃ outcome, started.finish transport = .ok outcome := by
  cases started with
  | settled outcome => exact ⟨outcome, rfl⟩
  | waiting request => exact Outcome.exists_ofReply_of_isWorded (worded request) request.url

end KeyClient
