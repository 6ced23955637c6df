import KeyClient.Proofs.Text.Split
import KeyClient.Proofs.Url.Percent
import KeyClient.Url.Query

/-!
# Queries are read back

`Query.decode_encode` says that a written query stands for its pairs, whatever characters are in
them; `Query.isSafe_of_mem_encode` says which characters a written query has.
-/

namespace KeyClient.Url.Query

/-! ## Names and values -/

/-- The character may stand in a written name or value. -/
def isWritten (c : Char) : Bool := isPlain c || c == '+' || c == '%'

theorem isWritten_digit : ∀ n < 16, isWritten (Percent.digit n) = true := by decide

theorem isWritten_of_mem_encodeText {cs : List Char} {c : Char} (h : c ∈ encodeText cs) :
    isWritten c = true := by
  obtain ⟨d, -, member⟩ := List.mem_flatMap.1 h
  split at member
  · next plain =>
    rw [List.mem_singleton.1 member, isWritten, plain]
    rfl
  · split at member
    · rw [List.mem_singleton.1 member]
      rfl
    · exact Percent.forall_mem_encodeChar (p := fun c => isWritten c = true) rfl isWritten_digit d c
        member

/-- A plus sign stands for a space. -/
def unplus (c : Char) : Char := if c = '+' then ' ' else c

theorem map_unplus_encodeChar (c : Char) :
    (Percent.encodeChar c).map unplus = Percent.encodeChar c := by
  have kept : ∀ d ∈ Percent.encodeChar c, unplus d = d := by
    refine Percent.forall_mem_encodeChar (p := fun d => unplus d = d) rfl ?_ c
    decide
  rw [List.map_congr_left kept, List.map_id']

theorem decode_map_unplus_encodeText (cs : List Char) :
    Percent.decode ((encodeText cs).map unplus) = Text.Utf8.encode cs := by
  induction cs with
  | nil => rfl
  | cons c cs ih =>
    rw [encodeText, List.flatMap_cons, ← encodeText, List.map_append, Text.Utf8.encode,
      List.flatMap_cons, ← Text.Utf8.encode, ← ih]
    split
    · next plain =>
      have noPlus : c ≠ '+' := by
        rintro rfl
        exact absurd plain (by decide)
      have noMark : c ≠ '%' := by
        rintro rfl
        exact absurd plain (by decide)
      rw [List.map_singleton, unplus, if_neg noPlus, List.singleton_append,
        Percent.decode_cons_of_ne noMark]
    · split
      · next space =>
        subst space
        exact Percent.decode_cons_of_ne (by decide) _
      · rw [map_unplus_encodeChar, Percent.decode_encodeChar_append]

/-- A name or a value is read back. -/
theorem decodeText_encodeText (cs : List Char) : decodeText (encodeText cs) = cs := by
  have decoded : decodeText (encodeText cs) =
      Text.Utf8.decode (Percent.decode ((encodeText cs).map unplus)) := rfl
  rw [decoded, decode_map_unplus_encodeText, Text.Utf8.decode_encode]

/-! ## Pairs -/

theorem ne_of_mem_encodeText {cs : List Char} {c d : Char} (h : c ∈ encodeText cs)
    (unwritten : isWritten d = false) : (c == d) = false := by
  rw [beq_eq_false_iff_ne]
  rintro rfl
  rw [isWritten_of_mem_encodeText h] at unwritten
  cases unwritten

/-- A pair is read back. -/
theorem decodePair_encodePair (pair : List Char × List Char) :
    decodePair (encodePair pair) = pair := by
  have apart : Text.cut (· == '=') (encodePair pair) =
      (encodeText pair.1, some (encodeText pair.2)) :=
    Text.cut_append_cons (fun _ h => ne_of_mem_encodeText h (by decide)) rfl _
  rw [decodePair, apart]
  simp only [Option.getD_some, decodeText_encodeText]

theorem encodePair_ne_nil (pair : List Char × List Char) : encodePair pair ≠ [] := by
  rw [encodePair]
  exact List.append_ne_nil_of_right_ne_nil _ (List.cons_ne_nil _ _)

/-- The character may stand in a written pair. -/
def isPaired (c : Char) : Bool := isWritten c || c == '='

theorem isPaired_of_mem_encodePair {pair : List Char × List Char} {c : Char}
    (h : c ∈ encodePair pair) : isPaired c = true := by
  rw [encodePair, List.mem_append, List.mem_cons] at h
  rcases h with name | rfl | value
  · rw [isPaired, isWritten_of_mem_encodeText name]
    rfl
  · rfl
  · rw [isPaired, isWritten_of_mem_encodeText value]
    rfl

/-! ## Queries -/

/-- The character may stand in a written query. -/
def isSafe (c : Char) : Bool := isPaired c || c == '&'

theorem isSafe_of_mem_encode {query : Query} {c : Char} (h : c ∈ encode query) :
    isSafe c = true := by
  rcases Text.mem_join h with rfl | ⟨part, member, inside⟩
  · rfl
  · obtain ⟨pair, -, rfl⟩ := List.mem_map.1 member
    rw [isSafe, isPaired_of_mem_encodePair inside]
    rfl

theorem encode_ne_nil {query : Query} (h : query ≠ []) : encode query ≠ [] := by
  cases query with
  | nil => exact absurd rfl h
  | cons pair query => exact Text.join_ne_nil (encodePair_ne_nil pair) _

/-- **Queries are read back**: a written query stands for its pairs, in their order. -/
theorem decode_encode (query : Query) : decode (encode query) = query := by
  by_cases nonempty : query = []
  · rw [nonempty]
    rfl
  have parts : Text.split (· == '&') (encode query) = query.map encodePair := by
    refine Text.split_join (by simpa using nonempty) ?_
    intro part member c inside
    obtain ⟨pair, -, rfl⟩ := List.mem_map.1 member
    rw [beq_eq_false_iff_ne]
    rintro rfl
    exact absurd (isPaired_of_mem_encodePair inside) (by decide)
  -- no pair is written as an empty part, so none is left out
  have whole : (query.map encodePair).filter (fun part => !part.isEmpty) = query.map encodePair := by
    rw [List.filter_eq_self]
    intro part member
    obtain ⟨pair, -, rfl⟩ := List.mem_map.1 member
    simp [encodePair_ne_nil]
  rw [decode, parts, whole, List.map_map]
  exact List.map_id'' decodePair_encodePair query

end KeyClient.Url.Query
