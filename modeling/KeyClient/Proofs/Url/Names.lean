import KeyClient.Proofs.Client.Slashes
import KeyClient.Proofs.Url.Server
import KeyClient.Proofs.Url.Walk

/-!
# Names behind a path

What a path with a server becomes when a segment is put behind it: a plain segment is put behind
the names that the others leave (`namesOf_concat`), and slashes only add empty names
(`spell_namesOf_append_replicate`).
-/

namespace KeyClient.Url.Path

open Client

/-- The names of a path with the segments. -/
def namesOf (segments : List (List Char)) : List (List Char) :=
  if isVerbatim .server segments then segments else resolve .server [] segments

/-- The names that the segments of a path leave if another one follows. -/
def leadingNames (segments : List (List Char)) : List (List Char) :=
  if isVerbatim .server segments then segments else (walk .server segments).reverse

/-- Names as text. -/
def spell (names : List (List Char)) : List Char := names.flatMap ('/' :: ·)

theorem spell_append (names more : List (List Char)) :
    spell (names ++ more) = spell names ++ spell more := List.flatMap_append

theorem spell_singleton (name : List Char) : spell [name] = '/' :: name := by
  rw [spell, List.flatMap_singleton]

theorem spell_replicate (count : Nat) : spell (List.replicate count []) = List.replicate count '/' := by
  induction count with
  | zero => rfl
  | succ count ih => rw [List.replicate_succ, spell, List.flatMap_cons, ← spell, ih]; rfl

/-! ## Plain segments -/

/-- The segment stands for itself, and for nothing else. -/
structure IsPlain (segment : List Char) : Prop where
  literal : segment.all isLiteral = true
  visible : startsHidden segment = false
  notAbove : isAbove segment = false
  notHere : isHere segment = false

theorem isPlain_nil : IsPlain [] := ⟨rfl, rfl, by decide, by decide⟩

theorem IsPlain.not_path {segment : List Char} (h : IsPlain segment) :
    ∀ c ∈ segment, Percent.path c = false := by
  intro c member
  exact path_of_isLiteral (List.all_eq_true.1 h.literal c member)

theorem IsPlain.keep {segment : List Char} (h : IsPlain segment) (first : Bool) :
    keep .server first segment = segment := by
  unfold Path.keep
  rw [if_neg (by simp), Percent.encode_eq_self h.not_path]

/-- A plain segment does not change whether the others are kept as they are. -/
theorem IsPlain.isVerbatim_concat {segment : List Char} (h : IsPlain segment)
    (segments : List (List Char)) :
    isVerbatim .server (segments ++ [segment]) = isVerbatim .server segments := by
  cases segments with
  | nil => simp [isVerbatim]
  | cons first rest =>
    have found : (rest ++ [segment]).find? startsHidden = rest.find? startsHidden := by
      rw [List.find?_append, List.find?_singleton, h.visible]
      simp
    have literal : (first :: (rest ++ [segment])).all (·.all isLiteral) =
        (first :: rest).all (·.all isLiteral) := by
      have own : [segment].all (·.all isLiteral) = true := by
        rw [List.all_cons, h.literal]
        rfl
      rw [← List.cons_append, List.all_append, own, Bool.and_true]
    rw [List.cons_append, isVerbatim, isVerbatim, found, literal]

/-- A plain segment is put behind the names that the others leave. -/
theorem IsPlain.namesOf_concat {segment : List Char} (h : IsPlain segment)
    (segments : List (List Char)) :
    namesOf (segments ++ [segment]) = leadingNames segments ++ [segment] := by
  rw [namesOf, leadingNames, h.isVerbatim_concat, resolve_concat, close, h.notAbove, h.notHere,
    h.keep]
  split <;> simp

theorem IsPlain.leadingNames_concat {segment : List Char} (h : IsPlain segment)
    (segments : List (List Char)) :
    leadingNames (segments ++ [segment]) = leadingNames segments ++ [segment] := by
  have walked : walk .server (segments ++ [segment]) = segment :: walk .server segments := by
    rw [walk_concat, enter, h.notAbove, h.notHere, h.keep]
    rfl
  rw [leadingNames, leadingNames, h.isVerbatim_concat, walked]
  split <;> simp

/-! ## Slashes at the end -/

theorem leadingNames_append_replicate (segments : List (List Char)) (count : Nat) :
    leadingNames (segments ++ List.replicate count []) =
      leadingNames segments ++ List.replicate count [] := by
  induction count with
  | zero => simp
  | succ count ih =>
    rw [List.replicate_succ', ← List.append_assoc, isPlain_nil.leadingNames_concat, ih,
      List.append_assoc]

/-- The names of a path are those that its segments leave, perhaps with an empty one. -/
theorem spell_namesOf {segments : List (List Char)} (some : segments ≠ []) :
    ∃ count, spell (namesOf segments) =
      spell (leadingNames segments) ++ List.replicate count '/' := by
  obtain ⟨before, last, rfl⟩ : ∃ before last, segments = before ++ [last] :=
    ⟨_, _, (List.dropLast_concat_getLast some).symm⟩
  rw [namesOf, leadingNames]
  split
  · exact ⟨0, (List.append_nil _).symm⟩
  · rw [resolve_concat, walk_concat, close, enter]
    split
    · refine ⟨1, ?_⟩
      rw [above, if_neg (by simp), List.reverse_cons, spell_append, spell_singleton]
      rfl
    · split
      · refine ⟨1, ?_⟩
        rw [List.reverse_cons, spell_append, spell_singleton]
        rfl
      · exact ⟨0, (List.append_nil _).symm⟩

/-- Slashes at the end of a path only add empty names. -/
theorem spell_namesOf_append_replicate {segments : List (List Char)} {count : Nat}
    (some : segments ++ List.replicate count [] ≠ []) :
    ∃ more, spell (namesOf (segments ++ List.replicate count [])) =
      spell (leadingNames segments) ++ List.replicate more '/' := by
  obtain ⟨more, spelled⟩ := spell_namesOf some
  refine ⟨count + more, ?_⟩
  rw [spelled, leadingNames_append_replicate, spell_append, spell_replicate, List.append_assoc,
    List.replicate_append_replicate]

/-! ## Blanks behind the last segment -/

theorem not_dots_of_isEdge {segment : List Char} {c : Char} (edge : isEdge c = true)
    (member : c ∈ segment) : isAbove segment = false ∧ isHere segment = false := by
  have low : c.toNat ≤ 0x20 := of_decide_eq_true edge
  -- the spellings are compared in lower case, where a blank stays what it is
  have self : c.toLower = c := Domain.toLower_of_lt (Nat.lt_of_le_of_lt low (by decide))
  have inside : c ∈ segment.map Char.toLower := List.mem_map.2 ⟨c, member, self⟩
  have absent : ∀ spellings : List (List Char),
      spellings.all (fun spelling => spelling.all fun d => !isEdge d) = true →
        spellings.contains (segment.map Char.toLower) = false := by
    intro spellings unblank
    rw [Bool.eq_false_iff]
    intro found
    have spelled := List.all_eq_true.1 unblank _ (List.contains_iff_mem.1 found)
    have plain := List.all_eq_true.1 spelled c inside
    rw [edge] at plain
    cases plain
  exact ⟨absent _ (by decide), absent _ (by decide)⟩

theorem path_of_isEdge {c : Char} (edge : isEdge c = true) : Percent.path c = true :=
  of_isEdge (P := fun c => Percent.path c = true) (by decide) edge

/-- A segment with blanks at its end is kept, with its blanks encoded. -/
theorem leadingNames_concat_edges (segments : List (List Char)) (last : List Char)
    {blanks : List Char} (edges : Edges blanks) :
    leadingNames (segments ++ [last ++ blanks]) = (walk .server segments).reverse ++
      [Percent.encode Percent.path last ++ Percent.encode Percent.path blanks] := by
  obtain ⟨c, inside⟩ := List.exists_mem_of_ne_nil blanks edges.nonempty
  have edge := edges.edge c inside
  have member : c ∈ last ++ blanks := List.mem_append_right _ inside
  obtain ⟨notAbove, notHere⟩ := not_dots_of_isEdge edge member
  -- a blank is never written as it is, so the path is resolved
  have resolved : isVerbatim .server (segments ++ [last ++ blanks]) = false := by
    rw [Bool.eq_false_iff]
    intro verbatim
    unfold isVerbatim at verbatim
    split at verbatim
    · cases verbatim
    · next first rest parts =>
      simp only [Bool.and_eq_true] at verbatim
      rw [← parts, List.all_append, Bool.and_eq_true, List.all_eq_true, List.all_eq_true] at verbatim
      have literal := List.all_eq_true.1 (verbatim.1.2.2 _ (List.mem_singleton_self _)) c member
      rw [isLiteral, path_of_isEdge edge] at literal
      cases literal
  rw [leadingNames, resolved, walk_concat, enter, notAbove, notHere]
  simp only [Bool.false_eq_true, if_false, List.reverse_cons]
  rw [keep, if_neg (by simp), Percent.encode_append]

theorem length_spell_shorten (reversed : List (List Char)) :
    (spell (shorten .server reversed).reverse).length ≤ (spell reversed.reverse).length := by
  have tail : (spell reversed.tail.reverse).length ≤ (spell reversed.reverse).length := by
    cases reversed with
    | nil => exact Nat.le_refl _
    | cons name reversed =>
      rw [List.tail_cons, List.reverse_cons, spell_append, List.length_append]
      exact Nat.le_add_right _ _
  unfold shorten
  split
  · rw [if_neg (by simp)]
    exact tail
  · exact tail

/-- The last segment adds at most itself and its slash. -/
theorem length_spell_close (reversed : List (List Char)) (last : List Char) :
    (spell (close .server reversed last).reverse).length ≤
      (spell reversed.reverse).length + (Percent.encode Percent.path last).length + 1 := by
  have shorter := length_spell_shorten reversed
  unfold close
  split
  · rw [above, if_neg (by simp), List.reverse_cons, spell_append, spell_singleton,
      List.length_append, List.length_singleton]
    omega
  · split
    · rw [List.reverse_cons, spell_append, spell_singleton, List.length_append,
        List.length_singleton]
      omega
    · rw [keep, if_neg (by simp), List.reverse_cons, spell_append, spell_singleton,
        List.length_append, List.length_cons]
      omega

/-- Blanks behind the last segment of a path show in what stands before the next one. -/
theorem spell_leadingNames_concat_edges_ne (segments : List (List Char)) (last : List Char)
    {blanks : List Char} (edges : Edges blanks) :
    spell (leadingNames (segments ++ [last ++ blanks])) ≠
      dropSlashes (spell (namesOf (segments ++ [last]))) := by
  obtain ⟨c, inside⟩ := List.exists_mem_of_ne_nil blanks edges.nonempty
  have mark : '%' ∈ Percent.encode Percent.path blanks :=
    Percent.mark_mem_encode inside (path_of_isEdge (edges.edge c inside))
  rw [leadingNames_concat_edges segments last edges, spell_append, spell_singleton]
  intro same
  by_cases verbatim : isVerbatim .server (segments ++ [last]) = true
  · -- names that are kept as they are have no percent signs in them
    have spelled : '%' ∈ spell (segments ++ [last]) := by
      have names : namesOf (segments ++ [last]) = segments ++ [last] := if_pos verbatim
      rw [← names]
      refine mem_of_mem_dropSlashes ?_
      rw [← same]
      simp [mark]
    obtain ⟨name, among, member⟩ := List.mem_flatMap.1 spelled
    have inName : '%' ∈ name := (List.mem_cons.1 member).resolve_left (by decide)
    unfold isVerbatim at verbatim
    split at verbatim
    · cases verbatim
    · next first rest parts =>
      simp only [Bool.and_eq_true, List.all_eq_true] at verbatim
      exact absurd (verbatim.1.2 name (parts ▸ among) _ inName) (by decide)
  · -- otherwise the encoded blanks make the path too long
    have names : namesOf (segments ++ [last]) = (close .server (walk .server segments) last).reverse := by
      rw [namesOf, if_neg verbatim, resolve_concat]
    have bound := length_spell_close (walk .server segments) last
    have shorter := length_dropSlashes_le (spell (namesOf (segments ++ [last])))
    have longer : 0 < (Percent.encode Percent.path blanks).length := List.length_pos_of_mem mark
    have lengths := congrArg List.length same
    rw [names] at lengths shorter
    rw [List.length_append, List.length_cons, List.length_append] at lengths
    omega

end KeyClient.Url.Path
