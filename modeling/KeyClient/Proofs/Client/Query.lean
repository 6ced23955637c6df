import KeyClient.Client
import KeyClient.Proofs.Url.Mark
import KeyClient.Proofs.Url.Query

/-!
# The query of a request

A query is encoded twice on its way into the address of a request: once when it is written, and
once more when the written text is set as the query of the address.  The second time changes
nothing (`Url.query_withQuery`), so a server reads the query that the client was given
(`query_start`), and requests with different fields go to different addresses.
-/

namespace KeyClient

namespace Url

/-! ## Setting a written query -/

theorem toNat_lt_of_isAlphanum {c : Char} (h : c.isAlphanum = true) : c.toNat < 128 := by
  have value : c.toNat = c.val.toNat := rfl
  change (decide (65 ≤ c.val ∧ c.val ≤ 90) || (decide (97 ≤ c.val) && decide (c.val ≤ 122)) ||
    (decide (48 ≤ c.val) && decide (c.val ≤ 57))) = true at h
  simp only [Bool.or_eq_true, Bool.and_eq_true, decide_eq_true_eq, UInt32.le_iff_toNat_le] at h
  rcases h with ((⟨-, upper⟩ | ⟨-, lower⟩) | ⟨-, digit⟩)
  · have bound : c.val.toNat ≤ 90 := upper
    omega
  · have bound : c.val.toNat ≤ 122 := lower
    omega
  · have bound : c.val.toNat ≤ 57 := digit
    omega

theorem toNat_lt_of_isSafe {c : Char} (h : Query.isSafe c = true) : c.toNat < 128 := by
  simp only [Query.isSafe, Query.isPaired, Query.isWritten, Query.isPlain, Bool.or_eq_true,
    beq_iff_eq] at h
  rcases h with ((((letter | mark) | rfl) | rfl) | rfl) | rfl
  · exact toNat_lt_of_isAlphanum letter
  · have ascii : ['*', '-', '.', '_'].all (fun d => d.toNat < 128) = true := by decide
    exact of_decide_eq_true (List.all_eq_true.1 ascii c (List.contains_iff_mem.1 mark))
  all_goals decide

/-- Nothing that stands in a written query is encoded or dropped when it is set. -/
theorem kept_of_isSafe {c : Char} (h : Query.isSafe c = true) :
    Percent.specialQuery c = false ∧ isBreak c = false ∧ c ≠ '?' := by
  have ascii : ∀ n < 128, Query.isSafe (Char.ofNat n) = true →
      Percent.specialQuery (Char.ofNat n) = false ∧ isBreak (Char.ofNat n) = false ∧
        Char.ofNat n ≠ '?' := by
    decide
  exact of_toNat_lt (P := fun c => Query.isSafe c = true → Percent.specialQuery c = false ∧
    isBreak c = false ∧ c ≠ '?') ascii (toNat_lt_of_isSafe h) h

theorem querySet_of_isSafe (scheme : List Char) {c : Char} (h : Query.isSafe c = true) :
    querySet scheme c = false := by
  have special := (kept_of_isSafe h).1
  unfold querySet
  split
  · exact special
  · exact (Bool.or_eq_false_iff.1 special).1

/-- A query that is set is set as it was written. -/
theorem query_withQuery (url : Url) (query : Query) :
    (url.withQuery query).query = if query = [] then none else some query.encode := by
  by_cases empty : query = []
  · rw [if_pos empty, empty]
    rfl
  · have safe : ∀ c ∈ query.encode, Query.isSafe c = true := fun _ => Query.isSafe_of_mem_encode
    have unmarked : dropMark query.encode = query.encode := by
      unfold dropMark
      split
      · next cs same => exact absurd rfl (kept_of_isSafe (safe '?' (by simp [same]))).2.2
      · rfl
    have unbroken : query.encode.filter (fun c => !isBreak c) = query.encode :=
      List.filter_eq_self.2 fun c member => by rw [(kept_of_isSafe (safe c member)).2.1]; rfl
    have unchanged : Percent.encode (querySet url.scheme) query.encode = query.encode :=
      Percent.encode_eq_self fun c member => querySet_of_isSafe _ (safe c member)
    rw [if_neg empty, withQuery, withSearch, if_neg (by simp [Query.encode_ne_nil empty]), unmarked,
      unbroken]
    simp only [unchanged]

theorem IsClear.withQuery {url : Url} (h : IsClear url) (query : Query) :
    IsClear (url.withQuery query) := by
  have trimmed : Unmarked url.path.trimEnd.text := by
    have clear := h.path
    cases own : url.path with
    | segments names => rwa [own] at clear
    | plain text =>
      rw [own] at clear
      intro c member
      exact clear c (List.mem_reverse.1 ((List.dropWhile_sublist _).mem (List.mem_reverse.1 member)))
  obtain ⟨scheme, username, password, host, path⟩ := h
  unfold Url.withQuery withSearch
  split
  · refine ⟨scheme, username, password, host, ?_⟩
    show Unmarked (if _ then _ else _ : Path).text
    split
    · exact trimmed
    · exact path
  · exact ⟨scheme, username, password, host, path⟩

/-- The query that was set is read back from the written address. -/
theorem decode_queryOf_withQuery {url : Url} (h : IsClear url) (query : Query) :
    (queryOf (url.withQuery query).text).map Query.decode =
      if query = [] then none else some query := by
  have noFragment : ∀ own, (url.withQuery query).query = some own → '#' ∉ own := by
    intro own set member
    rw [query_withQuery] at set
    split at set
    · cases set
    · cases set
      exact absurd (Query.isSafe_of_mem_encode member) (by decide)
  rw [queryOf_text (h.withQuery query) noFragment, query_withQuery]
  split
  · rfl
  · rw [Option.map_some, Query.decode_encode]

end Url

/-! ## Sending a query -/

/-- The query that a server reads in a request, if there is one. -/
def Http.Request.query? (request : Http.Request) : Option Url.Query :=
  (Url.queryOf request.url.toList).map Url.Query.decode

namespace Client

variable {client : Client} {deadline : Nat}

/-- A request that waits for a reply carries the query. -/
theorem query?_of_waiting {path : String} {query : Url.Query} {request : Http.Request}
    (waits : client.start path query = .waiting request) :
    request.query? = if query = [] then none else some query := by
  rw [start, url?] at waits
  cases parsed : Url.parse? (client.baseUrl ++ path).toList with
  | none =>
    rw [parsed] at waits
    cases waits
  | some url =>
    simp only [parsed, Option.map_some] at waits
    split at waits
    · cases waits
    · cases waits
      rw [Http.Request.query?, String.toList_ofList,
        Url.decode_queryOf_withQuery (Url.isClear_of_parse? parsed)]

/-- A request whose address can be built in time carries the query. -/
theorem start_of_isSome (timely : Http.Deadline.check client.timeoutMs = .ok deadline)
    {path : String} (built : (Url.parse? (client.baseUrl ++ path).toList).isSome)
    (query : Url.Query) :
    ∃ request, client.start path query = .waiting request ∧
      request.query? = if query = [] then none else some query := by
  obtain ⟨url, parsed⟩ := Option.isSome_iff_exists.1 built
  have waits : client.start path query = .waiting
      ⟨String.ofList (url.withQuery query).text, requestHeaders, deadline⟩ := by
    simp only [start, url?, parsed, Option.map_some, timely]
  exact ⟨_, waits, query?_of_waiting waits⟩

/-- The fields of a request for a key as a server is to read them. -/
def fields (request : KeyRequest) : Url.Query :=
  (request.key.map fun b => ("key".toList, (if b then "true" else "false").toList)).toList ++
    (request.uniqueKey.map fun s => ("unique_key".toList, s.toList)).toList

theorem query_eq_fields (request : KeyRequest) : request.query = fields request := by
  obtain ⟨key, uniqueKey⟩ := request
  rcases key with _ | (_ | _) <;> rfl

/-- What a server reads in a request for a key are its fields. -/
theorem fields_of_waiting {r : KeyRequest} {request : Http.Request}
    (waits : client.start KeyRequest.path (fields r) = .waiting request) :
    request.query?.getD [] = fields r := by
  rw [query?_of_waiting waits]
  split
  · next empty => rw [empty]; rfl
  · rfl

theorem lookup_key_fields (request : KeyRequest) :
    ((fields request).lookup "key".toList).map (· == "true".toList) = request.key := by
  obtain ⟨key, uniqueKey⟩ := request
  rcases key with _ | (_ | _)
  · cases uniqueKey <;> rfl
  · rfl
  · rfl

theorem lookup_uniqueKey_fields (request : KeyRequest) :
    ((fields request).lookup "unique_key".toList).map String.ofList = request.uniqueKey := by
  obtain ⟨key, uniqueKey⟩ := request
  have read : ∀ s : String, some (String.ofList s.toList) = some s := fun s => by
    rw [String.ofList_toList]
  cases uniqueKey with
  | none => cases key <;> rfl
  | some s => cases key <;> exact read s

/-- The fields can be told from what a server reads. -/
theorem fields_injective {request other : KeyRequest} (h : fields request = fields other) :
    request = other := by
  have key : request.key = other.key := by
    rw [← lookup_key_fields request, h, lookup_key_fields]
  have uniqueKey : request.uniqueKey = other.uniqueKey := by
    rw [← lookup_uniqueKey_fields request, h, lookup_uniqueKey_fields]
  cases request
  cases other
  cases key
  cases uniqueKey
  rfl

/-- **A server reads the query that was given.**  Every request that is sent in time carries
exactly the pairs of its query, in their order, and no query if there are none; a request for a key
carries exactly its fields, so requests with different fields go to different addresses. -/
theorem query_start (timely : Http.Deadline.check client.timeoutMs = .ok deadline) :
    (∀ (path : String) (query : Url.Query), (Url.parse? (client.baseUrl ++ path).toList).isSome →
      ∃ request, client.start path query = .waiting request ∧
        request.query? = if query = [] then none else some query) ∧
    ((Url.parse? (client.baseUrl ++ KeyRequest.path).toList).isSome →
      (∀ r : KeyRequest, ∃ request, client.startKey r = .waiting request ∧
        request.query?.getD [] = fields r) ∧
      ∀ r r' : KeyRequest, r ≠ r' → ∃ request request', client.startKey r = .waiting request ∧
        client.startKey r' = .waiting request' ∧ request.url ≠ request'.url) := by
  have sent : (Url.parse? (client.baseUrl ++ KeyRequest.path).toList).isSome →
      ∀ r : KeyRequest, ∃ request, client.startKey r = .waiting request ∧
        request.query?.getD [] = fields r := by
    intro built r
    obtain ⟨request, started, -⟩ := start_of_isSome timely built (fields r)
    refine ⟨request, ?_, fields_of_waiting started⟩
    rw [startKey, query_eq_fields, started]
  refine ⟨fun path query built => start_of_isSome timely built query, fun built =>
    ⟨sent built, fun r r' different => ?_⟩⟩
  obtain ⟨request, started, read⟩ := sent built r
  obtain ⟨request', started', read'⟩ := sent built r'
  refine ⟨request, request', started, started', fun same => different (fields_injective ?_)⟩
  rw [← read, ← read', Http.Request.query?, Http.Request.query?, same]

/-- A server with a query and a fragment of its own, and a path that opens another query. -/
theorem query_start_marked :
    let client := ofAddress "http://h/a?old=1#top" none
    Http.Deadline.check client.timeoutMs = .ok 30000 ∧
      (Url.parse? (client.baseUrl ++ "/x?y").toList).isSome ∧
      ∃ request, client.start "/x?y" [("a b".toList, "&=+%é".toList), ([], [])] = .waiting request ∧
        request.query? = some [("a b".toList, "&=+%é".toList), ([], [])] := by
  intro client
  have timely : Http.Deadline.check client.timeoutMs = .ok 30000 := rfl
  have built : (Url.parse? (client.baseUrl ++ "/x?y").toList).isSome := by decide +kernel
  exact ⟨timely, built, (query_start timely).1 "/x?y" _ built⟩

end Client

end KeyClient
