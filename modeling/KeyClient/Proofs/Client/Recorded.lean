import KeyClient.Proofs.Client.Ending

/-!
# The headers of a success

Where the server carries a request out, the outcome is a success with the record of its headers
(`Ending.of_isFine`).  So the headers of a success are those that arrived, but for what the record
loses of them (`Client.headers_whole_iff`).
-/

namespace KeyClient

namespace Client

open Dispatch Http

/-- Where the server carries a request out, sending ends in a success with the record of its
headers. -/
theorem Ending.of_isFine {client : Client} {r : KeyRequest} {transport : Transport}
    {asked : List Request} {ended : Except Failure Outcome}
    (ending : Ending client r transport asked ended)
    {response : Response} (answered : Answers transport asked response) (fine : IsFine response) :
    ended = .ok (.ok ⟨response.status, Headers.record response.headers⟩) := by
  cases ending with
  | unformed => exact absurd answered (not_answers_nil response)
  | untimely => exact absurd answered (not_answers_nil response)
  | rejected addresses timely reply =>
    rw [answers_singleton_iff, reply] at answered
    cases answered
  | accepted addresses timely reply =>
    rw [answers_singleton_iff, reply] at answered
    cases answered
    rfl
  | unreadable addresses timely reply outside =>
    rw [answers_singleton_iff, reply] at answered
    cases answered
    exact absurd fine outside
  | unexpected addresses timely reply outside =>
    rw [answers_singleton_iff, reply] at answered
    cases answered
    exact absurd fine outside
  | wordless addresses timely raises =>
    rw [answers_singleton_iff] at answered
    rw [answered] at raises
    rcases raises with _ | outside
    exact absurd fine outside

/-- **The headers of a success.**  If the server carries a request out, then the outcome is a success
whose record has each name once, and under each name what is held of its values.  That is one member
for each name that arrived with all of its values, joined by commas in the order of arrival, exactly
if the name that cannot be set did not arrive, and neither cookie name more than once. -/
theorem headers_whole_iff (client : Client) (r : KeyRequest) (transport : Transport)
    (response : Response) (answered : Answers transport (requested (send client r).1) response)
    (fine : IsFine response) :
    ∃ success, (send client r).2.finish transport = .ok (.ok success) ∧
      (success.headers.map Prod.fst).Nodup ∧
      (∀ name, success.headers.get? name =
        (Headers.held? name (Headers.received response.headers name)).map .string) ∧
      (Headers.IsWhole response.headers success.headers ↔
        Headers.received response.headers "__proto__" = [] ∧
          (Headers.received response.headers "set-cookie").length ≤ 1 ∧
          (Headers.received response.headers "cookie").length ≤ 1) :=
  ⟨⟨response.status, Headers.record response.headers⟩, ending_send.of_isFine answered fine,
    Headers.nodup_record _, Headers.get?_record _, Headers.isWhole_record_iff _⟩

/-- Of two cookies that a server sets the first one is lost; another name has both of its values. -/
theorem headers_whole_iff_two_cookies :
    let client := ofAddress "http://h" none
    let response : Response := ⟨200, "", [("Set-Cookie", "a=1"), ("Via", " x"), ("set-cookie", "b=2"),
      ("via", "y")], .ok []⟩
    let transport : Transport := fun _ => .response response
    Answers transport (requested (send client .empty).1) response ∧ IsFine response ∧
    ∃ success, (send client .empty).2.finish transport = .ok (.ok success) ∧
      success.headers.get? "set-cookie" = some (.string "b=2") ∧
      success.headers.get? "via" = some (.string "x, y") ∧
      ¬ Headers.IsWhole response.headers success.headers := by
  intro client response transport
  have ready : IsReady client := ⟨by decide +kernel, 30000, by decide +kernel⟩
  obtain ⟨sent, -, asked, -⟩ := send_of_isReady ready .empty
  have answered : Answers transport (requested (send client .empty).1) response := ⟨sent, asked, rfl⟩
  have fine : IsFine response := ⟨by decide, by decide⟩
  obtain ⟨success, outcome, -, held, whole⟩ :=
    headers_whole_iff client .empty transport response answered fine
  have cookies : Headers.received response.headers "set-cookie" = ["a=1", "b=2"] := by
    decide +kernel
  have via : Headers.received response.headers "via" = ["x", "y"] := by decide +kernel
  refine ⟨answered, fine, success, outcome, ?_, ?_, fun all => ?_⟩
  · rw [held, cookies]
    rfl
  · rw [held, via]
    rfl
  · have few := (whole.1 all).2.1
    rw [cookies] at few
    exact absurd few (by decide)

end Client

end KeyClient
