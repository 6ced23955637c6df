import KeyClient.Proofs.Client.Behind

/-!
# The address of a request

A request for a key goes to `/key` below the path of the server, as it should, exactly if the
server's address has no query and no fragment, does not end in a blank, and has no empty name before
its last slash (`Client.sends_to_key_iff`).
-/

namespace KeyClient

namespace Url

open Client
open KeyClient.Url.Path

/-! ## The address of keys -/

/-- The address is that of the keys of a server: `/key` stands behind the path of the server. -/
structure IsKeyAddress (base url : Url) : Prop where
  scheme : url.scheme = base.scheme
  host : url.host = base.host
  port : url.port = base.port
  path : url.path.text = dropSlashes base.path.text ++ KeyRequest.path.toList

/-- A path can be put behind the text of a server's address: the address has no query and no
fragment, does not end in a blank, and has no empty name before its last slash. -/
structure IsJoinable (cs : List Char) : Prop where
  unmarked : '?' ∉ cs ∧ '#' ∉ cs
  plain : ∀ c, (cs.filter fun c => !isBreak c).getLast? = some c → isEdge c = false
  single : ∀ url, parse? (dropSlashes cs ++ ['/']) = some url → ¬ ['/', '/'] <:+ url.path.text

theorem unmarked_iff {cs : List Char} : Unmarked cs ↔ '?' ∉ cs ∧ '#' ∉ cs := by
  constructor
  · intro h
    exact ⟨fun query => absurd (h _ query) (by decide), fun mark => absurd (h _ mark) (by decide)⟩
  · rintro ⟨noQuery, noFragment⟩ c member
    rw [isMark, Bool.or_eq_false_iff, beq_eq_false_iff_ne, beq_eq_false_iff_ne]
    constructor
    · rintro rfl
      exact noQuery member
    · rintro rfl
      exact noFragment member

theorem slashes_suffix_iff {start : List Char} :
    ['/', '/'] <:+ start ++ ['/'] ↔ start.getLast? = some '/' := by
  constructor
  · rintro ⟨before, same⟩
    have doubled : (before ++ ['/']) ++ ['/'] = start ++ ['/'] := by
      rw [List.append_assoc]
      exact same
    rw [← List.append_cancel_right doubled, List.getLast?_concat]
  · intro last
    obtain ⟨before, rfl⟩ := List.getLast?_eq_some_iff.1 last
    exact ⟨before, by rw [List.append_assoc]; rfl⟩

/-- The address that a path behind a server's address makes is that of its keys exactly if the path
can be put behind it. -/
theorem isKeyAddress_iff {cs : List Char} {base : Url} (parsed : parse? cs = some base)
    (web : IsWeb base.scheme) :
    (∃ url, parse? (dropSlashes cs ++ KeyRequest.path.toList) = some url ∧ IsKeyAddress base url) ↔
      IsJoinable cs := by
  have slashKey : KeyRequest.path.toList = '/' :: "key".toList := rfl
  by_cases unmarked : Unmarked cs
  · by_cases plain : EndsPlain cs
    · -- both paths start alike, so the slashes at the end of this start decide
      obtain ⟨start, extra, path, behind⟩ := exists_start parsed web unmarked plain
      obtain ⟨url, found, scheme, host, port, own⟩ := behind "key".toList isPlain_key
        split_key
      obtain ⟨slashed, foundSlash, -, -, -, ownSlash⟩ := behind [] isPlain_nil rfl
      have expected : dropSlashes base.path.text = dropSlashes start := by
        rw [path, dropSlashes_append_replicate]
      have single : ¬ ['/', '/'] <:+ slashed.path.text ↔ dropSlashes start = start := by
        rw [ownSlash, slashes_suffix_iff, dropSlashes_eq_self]
      constructor
      · rintro ⟨other, read, key⟩
        obtain rfl := Option.some.inj (found.symm.trans read)
        refine ⟨unmarked_iff.1 unmarked, plain, fun other readSlash => ?_⟩
        obtain rfl := Option.some.inj (foundSlash.symm.trans readSlash)
        rw [single, ← expected]
        exact (List.append_cancel_right (own.symm.trans key.path)).symm
      · intro joinable
        have whole := single.1 (joinable.single slashed foundSlash)
        exact ⟨url, found, scheme, host, port, by rw [own, expected, whole, slashKey]⟩
    · -- the blank at the end becomes a part of the request's path, if of anything
      constructor
      · rintro ⟨url, read, key⟩
        exact absurd key.path (path_ne_of_blank parsed web unmarked plain read)
      · intro joinable
        exact absurd joinable.plain plain
  · -- the path is lost behind the mark, and `/key` cannot be the path of the server itself
    constructor
    · rintro ⟨url, read, key⟩
      have same := map_front_of_marked unmarked (colon_mem_dropSlashes parsed web)
        (List.cons_ne_nil _ _) isPlain_key.unblank
      rw [parsed, ← slashKey, read] at same
      have samePath : url.path = base.path := congrArg Front.path (Option.some.inj same)
      exact absurd (samePath ▸ key.path) (ne_dropSlashes_append_key _)
    · intro joinable
      exact absurd (unmarked_iff.2 joinable.unmarked) unmarked

/-! ## Setting the query -/

theorem IsKeyAddress.congr {base url other : Url} (h : IsKeyAddress base url)
    (same : url.front = other.front) : IsKeyAddress base other := by
  have scheme : url.scheme = other.scheme := congrArg Front.scheme same
  have host : url.host = other.host := congrArg Front.host same
  have port : url.port = other.port := congrArg Front.port same
  have path : url.path = other.path := congrArg Front.path same
  exact ⟨scheme ▸ h.scheme, host ▸ h.host, port ▸ h.port, path ▸ h.path⟩

theorem scheme_withQuery (url : Url) (query : Query) :
    (url.withQuery query).scheme = url.scheme := by
  unfold withQuery withSearch
  split <;> rfl

/-- Another query leaves what comes before the query of an address of the web. -/
theorem front_withQuery {cs : List Char} {url : Url} (parsed : parse? cs = some url)
    (web : IsWeb url.scheme) (query : Query) : (url.withQuery query).front = url.front := by
  obtain ⟨core, opens⟩ := opens_of_parse? parsed web
  have front := front_of_parse? parsed
  rw [opens.ofHierarchy?_eq web, map_front_ofServer? web] at front
  obtain ⟨_, -, own⟩ := Option.map_eq_some_iff.1 front
  have path : ∃ names, url.path = .segments names := ⟨_, (congrArg Front.path own).symm⟩
  obtain ⟨names, path⟩ := path
  unfold withQuery withSearch
  split
  · rw [path]
    simp only [Url.front, Path.trimEnd, path, ite_self]
  · rfl

end Url

/-! ## Requests for keys -/

namespace Client

open Url (IsKeyAddress IsJoinable)

/-- **Where a request for a key goes.**  A client of an address of the web sends its requests for
keys to `/key` below the path of this address, with the same scheme, host and port, exactly if a
path can be put behind the address; otherwise they go elsewhere or cannot be sent. -/
theorem sends_to_key_iff {baseUrl : String} {base : Url} {timeoutMs : Option Number}
    {deadline : Nat} (parsed : Url.parse? baseUrl.toList = some base)
    (web : base.scheme = "http".toList ∨ base.scheme = "https".toList)
    (timely : Http.Deadline.check (ofAddress baseUrl timeoutMs).timeoutMs = .ok deadline)
    (r : KeyRequest) :
    (∃ url, (ofAddress baseUrl timeoutMs).url? KeyRequest.path r.query = some url ∧
      (ofAddress baseUrl timeoutMs).startKey r =
        .waiting ⟨String.ofList url.text, requestHeaders, deadline⟩ ∧ IsKeyAddress base url) ↔
      IsJoinable baseUrl.toList := by
  have text : ((ofAddress baseUrl timeoutMs).baseUrl ++ KeyRequest.path).toList =
      dropSlashes baseUrl.toList ++ KeyRequest.path.toList := by
    rw [String.toList_append, ofAddress, String.toList_ofList]
  have url?_eq : (ofAddress baseUrl timeoutMs).url? KeyRequest.path r.query =
      (Url.parse? (dropSlashes baseUrl.toList ++ KeyRequest.path.toList)).map
        (·.withQuery r.query) := by
    rw [url?, text]
  rw [← Url.isKeyAddress_iff parsed web]
  constructor
  · rintro ⟨url, built, -, key⟩
    rw [url?_eq] at built
    obtain ⟨read, found, rfl⟩ := Option.map_eq_some_iff.1 built
    have readWeb : Url.IsWeb read.scheme := by
      rw [← Url.scheme_withQuery read r.query, key.scheme]
      exact web
    exact ⟨read, found, key.congr (Url.front_withQuery found readWeb r.query)⟩
  · rintro ⟨read, found, key⟩
    have readWeb : Url.IsWeb read.scheme := by
      rw [key.scheme]
      exact web
    have built : (ofAddress baseUrl timeoutMs).url? KeyRequest.path r.query =
        some (read.withQuery r.query) := by
      rw [url?_eq, found, Option.map_some]
    refine ⟨read.withQuery r.query, built, ?_,
      key.congr (Url.front_withQuery found readWeb r.query).symm⟩
    rw [startKey, start, built]
    simp only [timely]

/-- A path can be put behind an address with a path of its own. -/
theorem isJoinable_path : IsJoinable "http://h/a/".toList := by
  have slashed : (Url.parse? (dropSlashes "http://h/a/".toList ++ ['/'])).map (·.path.text) =
      some "/a/".toList := by
    decide +kernel
  refine ⟨by decide, fun c last => ?_, fun url read => ?_⟩
  · obtain rfl : '/' = c := Option.some.inj last
    decide
  · rw [read] at slashed
    have path : url.path.text = "/a/".toList := Option.some.inj slashed
    rw [path]
    decide

/-- Requests for keys go to `/a/key` of a server at `/a/`, and not to `/key` of a server with a
query of its own. -/
theorem sends_to_key_path_query :
    (∃ base, Url.parse? "http://h/a/".toList = some base ∧
      ∃ url, (ofAddress "http://h/a/" none).url? KeyRequest.path [] = some url ∧
        IsKeyAddress base url) ∧
    ∃ base, Url.parse? "http://h?x=1".toList = some base ∧
      ¬ ∃ url, (ofAddress "http://h?x=1" none).url? KeyRequest.path [] = some url ∧
        (ofAddress "http://h?x=1" none).startKey .empty =
          .waiting ⟨String.ofList url.text, requestHeaders, 30000⟩ ∧ IsKeyAddress base url := by
  constructor
  · have scheme : (Url.parse? "http://h/a/".toList).map (·.scheme) = some "http".toList := by
      decide +kernel
    obtain ⟨base, parsed, web⟩ := Option.map_eq_some_iff.1 scheme
    have timely : Http.Deadline.check (ofAddress "http://h/a/" none).timeoutMs = .ok 30000 := rfl
    obtain ⟨url, built, -, key⟩ :=
      (sends_to_key_iff parsed (.inl web) timely .empty).2 isJoinable_path
    exact ⟨base, parsed, url, built, key⟩
  · have scheme : (Url.parse? "http://h?x=1".toList).map (·.scheme) = some "http".toList := by
      decide +kernel
    obtain ⟨base, parsed, web⟩ := Option.map_eq_some_iff.1 scheme
    have timely : Http.Deadline.check (ofAddress "http://h?x=1" none).timeoutMs = .ok 30000 := rfl
    refine ⟨base, parsed, fun sent => ?_⟩
    have joinable := (sends_to_key_iff parsed (.inl web) timely .empty).1 sent
    exact joinable.unmarked.1 (by decide)

end Client

end KeyClient
