import KeyClient.Proofs.Client.Query
import KeyClient.Proofs.Dispatch.Alone
import KeyClient.Proofs.Http.Recorded

/-!
# How requests end

Sending a request for a key ends in one of seven ways (`Client.Ending`): there is no address, there
is no deadline, the transport rejects the request, the server's response is a success, cannot be
read, or is unexpected, or what was raised cannot be put in words.  From these ways follows when the
outcome is which, what it says about the response, and how often the transport is asked
(`Client.send_decided`).
-/

namespace KeyClient

/-- The fault of an outcome that is an error. -/
def Outcome.fault? : Outcome → Option RequestFault
  | .ok _ => none
  | .error error => some error.fault

namespace Client

open Dispatch Http

/-- The address of a request for a key: that of the server with `/key` behind it, and the fields of
the request as its query. -/
def Addresses (client : Client) (r : KeyRequest) (url : String) : Prop :=
  ∃ server, Url.parse? (client.baseUrl ++ "/key").toList = some server ∧
    url = String.ofList (server.withQuery (fields r)).text

/-- There is no address for requests for keys. -/
def Unformed (client : Client) : Prop := Url.parse? (client.baseUrl ++ "/key").toList = none

/-- The time limit makes a deadline: it is a whole number of milliseconds in 32 bits. -/
def IsTimely (client : Client) : Prop :=
  client.timeoutMs = .negativeZero ∨ ∃ ms : Nat, ms ≤ 4294967295 ∧ client.timeoutMs = .integer ms

/-- The ways in which sending ends: what the transport is asked, and the outcome. -/
inductive Ending (client : Client) (r : KeyRequest) (transport : Transport) :
    List Request → Except Failure Outcome → Prop
  | unformed (unformed : client.Unformed) :
      Ending client r transport [] (.ok (.invalid client KeyRequest.path))
  | untimely {url reason : String} (addresses : client.Addresses r url)
      (untimely : ¬ client.IsTimely) :
      Ending client r transport [] (.ok (.unanswered url reason))
  | rejected {request : Request} {reason : Raised} {text : String}
      (addresses : client.Addresses r request.url) (timely : client.IsTimely)
      (reply : transport request = .rejected reason) (words : reason.text = .ok text) :
      Ending client r transport [request] (.ok (.unanswered request.url text))
  | accepted {request : Request} {response : Response}
      (addresses : client.Addresses r request.url) (timely : client.IsTimely)
      (reply : transport request = .response response) (fine : IsFine response) :
      Ending client r transport [request]
        (.ok (.ok ⟨response.status, Headers.record response.headers⟩))
  | unreadable {request : Request} {response : Response} {reason : Raised} {text : String}
      (addresses : client.Addresses r request.url) (timely : client.IsTimely)
      (reply : transport request = .response response) (outside : ¬ IsFine response)
      (broken : response.body = .error reason) (words : reason.text = .ok text) :
      Ending client r transport [request] (.ok (.unreadable request.url response text))
  | unexpected {request : Request} {response : Response} {octets : List UInt8} {text : String}
      (addresses : client.Addresses r request.url) (timely : client.IsTimely)
      (reply : transport request = .response response) (outside : ¬ IsFine response)
      (whole : response.body = .ok octets) (body : response.text = .ok text) :
      Ending client r transport [request] (.ok (.unexpected request.url response text))
  | wordless {request : Request} {reason : Raised} {failure : Failure}
      (addresses : client.Addresses r request.url) (timely : client.IsTimely)
      (raises : (transport request).Raises reason) (wordless : reason.Wordless failure) :
      Ending client r transport [request] (.error failure)

section

variable {client : Client} {r : KeyRequest} {transport : Transport}

/-! ## Sending -/

theorem check_isOk_iff : (∃ deadline, Deadline.check client.timeoutMs = .ok deadline) ↔
    client.IsTimely := by
  rw [IsTimely]
  cases client.timeoutMs with
  | integer i =>
    by_cases inside : 0 ≤ i ∧ i ≤ Deadline.greatest
    · refine iff_of_true ⟨i.toNat, by rw [Deadline.check, if_pos inside]⟩ (.inr ⟨i.toNat, ?_, ?_⟩)
      · have bound : (Deadline.greatest : Int) = 4294967295 := by decide
        omega
      · rw [Int.toNat_of_nonneg inside.1]
    · refine iff_of_false (by simp [Deadline.check, inside]) ?_
      rintro (none | ⟨ms, small, same⟩)
      · cases none
      · have bound : (Deadline.greatest : Int) = 4294967295 := by decide
        cases same
        omega
  | negativeZero => exact iff_of_true ⟨0, rfl⟩ (.inl rfl)
  | _ => simp [Deadline.check]

/-- What a sent request ends in, by the reply to it. -/
theorem ending_ofReply {request : Request} (addresses : client.Addresses r request.url)
    (timely : client.IsTimely) :
    Ending client r transport [request] (Outcome.ofReply request.url (transport request)) := by
  cases ended : Outcome.ofReply request.url (transport request) with
  | error failure =>
    obtain ⟨reason, raises, wordless⟩ := Outcome.ofReply_eq_error_iff.1 ended
    exact .wordless addresses timely raises wordless
  | ok outcome =>
    cases reply : transport request with
    | rejected reason =>
      rw [reply, Outcome.ofReply] at ended
      cases words : reason.text with
      | error failure => simp [words, Except.map] at ended
      | ok text =>
        rw [words] at ended
        cases ended
        exact .rejected addresses timely reply words
    | response response =>
      rw [reply, Outcome.ofReply] at ended
      cases success : response.isSuccess with
      | true =>
        rw [success, if_pos rfl] at ended
        cases ended
        exact .accepted addresses timely reply ((isSuccess_iff response).1 success)
      | false =>
        rw [success, if_neg Bool.false_ne_true] at ended
        have outside := not_isFine success
        cases body : response.text with
        | error reason =>
          rw [body] at ended
          have broken := Response.text_eq_error_iff.1 body
          cases words : reason.text with
          | error failure => simp [words, Except.map] at ended
          | ok text =>
            simp only [words] at ended
            cases ended
            exact .unreadable addresses timely reply outside broken words
        | ok text =>
          rw [body] at ended
          cases ended
          obtain ⟨octets, whole⟩ := Response.body_of_text_ok body
          exact .unexpected addresses timely reply outside whole body

theorem events_send (client : Client) (r : KeyRequest) :
    (send client r).1 =
      [.log (stageEntry "sending" r), .get KeyRequest.path r.query] ++
        ((client.startKeyEntries r).map .log ++
          (client.startKey r).request?.toList.map .send) := by
  simp only [send, Dispatch.get, startKey, startKeyEntries, List.cons_append, List.nil_append]

/-- What the transport is asked by sending. -/
theorem requested_send (client : Client) (r : KeyRequest) :
    requested (send client r).1 = (client.startKey r).request?.toList := by
  have front : requested [.log (stageEntry "sending" r), .get KeyRequest.path r.query] = [] := rfl
  have sent : ∀ request : Option Request, requested (request.toList.map .send) = request.toList :=
    fun request => by cases request <;> rfl
  rw [events_send, requested_append, requested_append, requested_map_eq_nil fun _ => rfl, front,
    sent, List.nil_append, List.nil_append]

/-- Nothing is reported by sending. -/
theorem reported_send (client : Client) (r : KeyRequest) : reported (send client r).1 = [] := by
  have front : reported [.log (stageEntry "sending" r), .get KeyRequest.path r.query] = [] := rfl
  rw [events_send, reported_append, reported_append, reported_map_eq_nil fun _ => rfl,
    reported_map_eq_nil fun _ => rfl, front, List.nil_append, List.nil_append]

theorem started_send (client : Client) (r : KeyRequest) :
    (send client r).2 = client.startKey r := by
  simp only [send, Dispatch.get, startKey]

/-- Sending fails exactly if the transport was asked and raised what cannot be put in words. -/
theorem finish_send_eq_error_iff (failure : Failure) :
    (send client r).2.finish transport = .error failure ↔
      ∃ request ∈ requested (send client r).1, ∃ reason,
        (transport request).Raises reason ∧ reason.Wordless failure := by
  rw [requested_send, started_send]
  cases client.startKey r with
  | settled outcome => simp [Started.finish, Started.request?]
  | waiting request => simp [Started.finish, Started.request?, Outcome.ofReply_eq_error_iff]

theorem requested_send_of_error {failure : Failure}
    (failed : (send client r).2.finish transport = .error failure) :
    ∃ request, requested (send client r).1 = [request] ∧ ∃ reason,
      (transport request).Raises reason ∧ reason.Wordless failure := by
  obtain ⟨request, mem, raises⟩ := (finish_send_eq_error_iff failure).1 failed
  refine ⟨request, ?_, raises⟩
  rw [requested_send, Option.mem_toList] at mem
  rw [requested_send, mem, Option.toList_some]

/-- Sending ends in one of the ways. -/
theorem ending_send :
    Ending client r transport (requested (send client r).1)
      ((send client r).2.finish transport) := by
  rw [requested_send, started_send, startKey, Client.start]
  cases parsed : Url.parse? (client.baseUrl ++ KeyRequest.path).toList with
  | none =>
    simp only [url?, parsed, Option.map_none]
    exact .unformed parsed
  | some server =>
    simp only [url?, parsed, Option.map_some]
    have addresses : client.Addresses r (String.ofList (server.withQuery r.query).text) :=
      ⟨server, parsed, by rw [query_eq_fields]⟩
    cases timely : Deadline.check client.timeoutMs with
    | error reason =>
      refine .untimely addresses fun isTimely => ?_
      obtain ⟨deadline, checked⟩ := check_isOk_iff.2 isTimely
      rw [timely] at checked
      cases checked
    | ok deadline => exact ending_ofReply addresses (check_isOk_iff.1 ⟨deadline, timely⟩)

/-! ## What is decided by what -/

/-- What is asked of the transport: once at most, and for the address of the request; nothing if
there is no address, or no deadline. -/
structure IsAsked (client : Client) (r : KeyRequest) (asked : List Request) : Prop where
  once : asked.length ≤ 1
  addressed : ∀ request ∈ asked, client.Addresses r request.url
  unasked : asked = [] ↔ client.Unformed ∨ ¬ client.IsTimely

/-- The transport was asked for the response. -/
def Answers (transport : Transport) (asked : List Request) (response : Response) : Prop :=
  ∃ request, asked = [request] ∧ transport request = .response response

/-- An outcome is decided by the address, the deadline and the reply. -/
structure IsDecided (client : Client) (r : KeyRequest) (transport : Transport)
    (asked : List Request) (outcome : Outcome) : Prop where
  invalid : outcome.fault? = some .invalidRequest ↔ client.Unformed
  communication : outcome.fault? = some .communication ↔ ¬ client.Unformed ∧
    (¬ client.IsTimely ∨ ∃ request ∈ asked, ∃ reason, transport request = .rejected reason)
  success : ∀ v, (∃ success : Success, outcome = .ok success ∧ v = success.toValue) ↔
    ∃ response, Answers transport asked response ∧ IsFine response ∧
      v = .object [("status", .ofNat response.status),
        ("headers", .object (Headers.record response.headers)), ("inner", .null)]
  /-- A success has under each name what is held of the values that arrived. -/
  headers : ∀ success, outcome = .ok success → ∀ response, Answers transport asked response →
    ∀ name, success.headers.get? name =
      (Headers.held? name (Headers.received response.headers name)).map .string
  unreadable : outcome.fault? = some .unreadableResponse ↔
    ∃ response, Answers transport asked response ∧ ¬ IsFine response ∧
      ∃ reason, response.body = .error reason
  unexpected : outcome.fault? = some .unexpectedResponse ↔
    ∃ response, Answers transport asked response ∧ ¬ IsFine response ∧
      ∃ octets, response.body = .ok octets
  /-- An unexpected response comes with its body as text; a text that begins with no byte order mark
  is read back from its octets. -/
  body : ∀ error, outcome = .error error → error.fault = .unexpectedResponse →
    ∃ response text, Answers transport asked response ∧ response.text = .ok text ∧
      error.context.lookup "body" = some (.string text) ∧
      ∀ cs, response.status ≠ 304 → response.body = .ok (Text.Utf8.encode cs) →
        cs.head? ≠ some '\uFEFF' → text = String.ofList cs
  /-- The status of an error is that of the response, if there is one. -/
  status : ∀ error, outcome = .error error → ∀ status,
    error.status = some status ↔
      ∃ response, Answers transport asked response ∧ response.status = status
  answered : ∀ error, outcome = .error error →
    (error.status.isSome ↔
      error.fault = .unreadableResponse ∨ error.fault = .unexpectedResponse)
  /-- An error names the address, if there is one. -/
  url : ∀ error, outcome = .error error → error.fault ≠ .invalidRequest →
    ∃ url, client.Addresses r url ∧ error.context.lookup "url" = some (.string url)

theorem Addresses.formed {url : String} (h : client.Addresses r url) : ¬ client.Unformed := by
  intro unformed
  obtain ⟨server, parsed, -⟩ := h
  rw [Unformed, parsed] at unformed
  cases unformed

theorem not_answers_nil (response : Response) : ¬ Answers transport [] response := by
  rintro ⟨request, none, -⟩
  cases none

theorem answers_singleton_iff {request : Request} {response : Response} :
    Answers transport [request] response ↔ transport request = .response response := by
  simp [Answers]

/-- In every way of ending, the transport is asked at most once. -/
theorem Ending.isAsked {asked : List Request} {ended : Except Failure Outcome}
    (h : Ending client r transport asked ended) : IsAsked client r asked := by
  cases h with
  | unformed unformed => constructor <;> simp [unformed]
  | untimely addresses untimely => constructor <;> simp [untimely]
  | rejected addresses timely | accepted addresses timely | unreadable addresses timely
  | unexpected addresses timely | wordless addresses timely =>
    constructor <;> simp [addresses, addresses.formed, timely]

/-- In every way of ending, an outcome is the one that is decided. -/
theorem Ending.isDecided {asked : List Request} {outcome : Outcome}
    (h : Ending client r transport asked (.ok outcome)) :
    IsDecided client r transport asked outcome := by
  cases h with
  | unformed unformed =>
    constructor <;> simp [unformed, not_answers_nil, Outcome.fault?, Outcome.invalid]
  | untimely addresses untimely =>
    constructor <;>
      simp [addresses, addresses.formed, untimely, not_answers_nil, Outcome.fault?,
        Outcome.unanswered]
  | rejected addresses timely reply words =>
    constructor <;>
      simp [addresses, addresses.formed, timely, reply, answers_singleton_iff, Outcome.fault?,
        Outcome.unanswered]
  | accepted addresses timely reply fine =>
    constructor <;>
      simp [addresses.formed, timely, reply, fine, answers_singleton_iff, Outcome.fault?,
        Success.toValue, Headers.get?_record]
  | unreadable addresses timely reply outside broken words =>
    constructor <;>
      simp [addresses, addresses.formed, timely, reply, outside, broken, answers_singleton_iff,
        Outcome.fault?, Outcome.unreadable]
  | @unexpected request response octets text addresses timely reply outside whole body =>
    have read : ∀ cs, response.status ≠ 304 → response.body = .ok (Text.Utf8.encode cs) →
        cs.head? ≠ some '\uFEFF' → text = String.ofList cs := by
      intro cs status encoded unmarked
      have back := Response.text_of_encode outside status encoded unmarked
      rw [body] at back
      exact Except.ok.inj back
    constructor
    case body =>
      rintro error ⟨⟩ -
      exact ⟨response, text, answers_singleton_iff.2 reply, body, rfl, read⟩
    all_goals
      simp [addresses, addresses.formed, timely, reply, outside, whole,
        answers_singleton_iff, Outcome.fault?, Outcome.unexpected]

end

/-- **How sending a request for a key ends.**  For every client, request and transport, what sending
asks of the transport is decided by the address and the deadline.  It fails exactly if it was to quote
what cannot be put in words; otherwise it yields an outcome, decided by the address, the deadline,
the reply and the body. -/
theorem send_decided (client : Client) (r : KeyRequest) (transport : Transport) :
    let asked := requested (send client r).1
    let ended := (send client r).2.finish transport
    IsAsked client r asked ∧
      (∀ failure, ended = .error failure ↔ ∃ request ∈ asked, ∃ reason,
        (transport request).Raises reason ∧ reason.Wordless failure) ∧
      ∀ outcome, ended = .ok outcome → IsDecided client r transport asked outcome := by
  intro asked ended
  have ending : Ending client r transport asked ended := ending_send
  refine ⟨ending.isAsked, fun failure => finish_send_eq_error_iff failure, fun outcome known => ?_⟩
  rw [known] at ending
  exact ending.isDecided

/-- A response with an error status whose body cannot be read, for a reason without a text. -/
theorem send_decided_textless :
    let client := ofAddress "http://h" none
    let response : Response := ⟨500, "", [], .error (.value (.object [("toString", .string "x")]))⟩
    let transport : Transport := fun _ => .response response
    requested (send client .empty).1 = [⟨"http://h/key", requestHeaders, 30000⟩] ∧
      (send client .empty).2.finish transport =
        .error (.other "TypeError" "Cannot convert object to primitive value") := by
  intro client response transport
  have asked : requested (send client .empty).1 = [⟨"http://h/key", requestHeaders, 30000⟩] := by
    decide +kernel
  have outside : ¬ IsFine response := fun fine => absurd fine.2 (by decide)
  refine ⟨asked, ((send_decided client .empty transport).2.1 _).2 ?_⟩
  rw [asked]
  exact ⟨_, List.mem_singleton_self _, _, .unreadable outside rfl, .value (.object rfl)⟩

end Client

end KeyClient
