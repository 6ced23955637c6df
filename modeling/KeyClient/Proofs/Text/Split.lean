import KeyClient.Text.Split

/-!
# Cutting and joining

`cut_cases` says what `cut` does: there is no separator and the text is left whole, or the text is
taken apart at the first separator.  Joined texts come apart into the parts of each
(`split_join_eq_flatMap`), so `split` takes apart what `join` put together, if no part has the
separator in it (`split_join`).
-/

namespace KeyClient.Text

/-! ## Cutting -/

theorem cut_append_cons {p : Char → Bool} {before : List Char} {c : Char}
    (h : ∀ d ∈ before, p d = false) (hc : p c = true) (after : List Char) :
    cut p (before ++ c :: after) = (before, some after) := by
  induction before with
  | nil => rw [List.nil_append, cut, if_pos hc]
  | cons d before ih =>
    rw [List.cons_append, cut, h d (by simp), ih fun e inside => h e (by simp [inside])]
    rfl

theorem cut_eq_self {p : Char → Bool} {cs : List Char} (h : ∀ c ∈ cs, p c = false) :
    cut p cs = (cs, none) := by
  induction cs with
  | nil => rfl
  | cons c cs ih =>
    rw [cut, h c (by simp), ih fun d inside => h d (by simp [inside])]
    rfl

/-- A text has no separator, or it is taken apart at the first one. -/
theorem cut_cases (p : Char → Bool) (cs : List Char) :
    ((∀ c ∈ cs, p c = false) ∧ cut p cs = (cs, none)) ∨
      ∃ before c after, cs = before ++ c :: after ∧ p c = true ∧ (∀ d ∈ before, p d = false) ∧
        cut p cs = (before, some after) := by
  induction cs with
  | nil => exact .inl ⟨by simp, rfl⟩
  | cons c cs ih =>
    cases hc : p c with
    | true => exact .inr ⟨[], c, cs, rfl, hc, by simp, by rw [cut, if_pos hc]⟩
    | false =>
      rcases ih with ⟨none, whole⟩ | ⟨before, d, after, rfl, hd, none, apart⟩
      · have clear : ∀ e ∈ c :: cs, p e = false := List.forall_mem_cons.2 ⟨hc, none⟩
        exact .inl ⟨clear, cut_eq_self clear⟩
      · have clear : ∀ e ∈ c :: before, p e = false := List.forall_mem_cons.2 ⟨hc, none⟩
        exact .inr ⟨c :: before, d, after, rfl, hd, clear, cut_append_cons clear hd after⟩

theorem mem_of_mem_cut_fst {p : Char → Bool} {cs : List Char} {c : Char} (h : c ∈ (cut p cs).1) :
    c ∈ cs := by
  rcases cut_cases p cs with ⟨-, whole⟩ | ⟨before, d, after, rfl, -, -, apart⟩
  · rwa [whole] at h
  · rw [apart] at h
    exact List.mem_append_left _ h

theorem mem_of_mem_cut_snd {p : Char → Bool} {cs rest : List Char} {c : Char}
    (cuts : (cut p cs).2 = some rest) (h : c ∈ rest) : c ∈ cs := by
  rcases cut_cases p cs with ⟨-, whole⟩ | ⟨before, d, after, rfl, -, -, apart⟩
  · rw [whole] at cuts
    cases cuts
  · rw [apart] at cuts
    cases cuts
    exact List.mem_append_right _ (List.mem_cons_of_mem _ h)

theorem not_of_mem_cut_fst {p : Char → Bool} {cs : List Char} {c : Char}
    (h : c ∈ (cut p cs).1) : p c = false := by
  rcases cut_cases p cs with ⟨none, whole⟩ | ⟨before, d, after, rfl, -, none, apart⟩
  · rw [whole] at h
    exact none c h
  · rw [apart] at h
    exact none c h

/-! ## Splitting and joining -/

/-- A text has a last part, to which whatever is put behind the text belongs as far as it has no
separators. -/
theorem split_eq_concat (p : Char → Bool) (cs : List Char) :
    ∃ parts last, split p cs = parts ++ [last] ∧
      ∀ more, (∀ c ∈ more, p c = false) → split p (cs ++ more) = parts ++ [last ++ more] := by
  induction cs with
  | nil => exact ⟨[], [], rfl, fun more clear => split_eq_singleton clear⟩
  | cons c cs ih =>
    obtain ⟨parts, last, whole, behind⟩ := ih
    -- a character joins the first part, which is the last one too if there is no other
    by_cases separator : p c = true
    · refine ⟨[] :: parts, last, ?_, fun more clear => ?_⟩
      · rw [split, if_pos separator, whole, List.cons_append]
      · rw [List.cons_append, split, if_pos separator, behind more clear, List.cons_append]
    · cases parts with
      | nil =>
        refine ⟨[], c :: last, ?_, fun more clear => ?_⟩
        · rw [split, if_neg separator, whole]
          rfl
        · rw [List.cons_append, split, if_neg separator, behind more clear]
          rfl
      | cons part parts =>
        refine ⟨(c :: part) :: parts, last, ?_, fun more clear => ?_⟩
        · rw [split, if_neg separator, whole]
          rfl
        · rw [List.cons_append, split, if_neg separator, behind more clear]
          rfl

theorem mem_split_of_mem {p : Char → Bool} {cs : List Char} {c : Char} (h : c ∈ cs)
    (hc : p c = false) : ∃ part ∈ split p cs, c ∈ part := by
  induction cs with
  | nil => cases h
  | cons d cs ih =>
    rw [split]
    split
    · next separator =>
      rcases List.mem_cons.1 h with rfl | later
      · rw [hc] at separator
        cases separator
      · obtain ⟨part, inside, member⟩ := ih later
        exact ⟨part, List.mem_cons_of_mem _ inside, member⟩
    · split
      · next none => exact absurd none (split_ne_nil p cs)
      · next first rest parts =>
        rw [parts] at ih
        rcases List.mem_cons.1 h with rfl | later
        · exact ⟨c :: first, by simp, by simp⟩
        · obtain ⟨part, inside, member⟩ := ih later
          rcases List.mem_cons.1 inside with rfl | behind
          · exact ⟨d :: part, by simp, List.mem_cons_of_mem _ member⟩
          · exact ⟨part, List.mem_cons_of_mem _ behind, member⟩

/-- No part has a separator in it. -/
theorem not_of_mem_split {p : Char → Bool} {cs part : List Char} (h : part ∈ split p cs) {c : Char}
    (member : c ∈ part) : p c = false := by
  induction cs generalizing part with
  | nil =>
    rw [split, List.mem_singleton] at h
    rw [h] at member
    cases member
  | cons d cs ih =>
    rw [split] at h
    split at h
    · rcases List.mem_cons.1 h with rfl | later
      · cases member
      · exact ih later member
    · next clear =>
      split at h
      · next none => exact absurd none (split_ne_nil p cs)
      · next first rest parts =>
        rw [parts] at ih
        rcases List.mem_cons.1 h with rfl | later
        · rcases List.mem_cons.1 member with rfl | inside
          · simpa using clear
          · exact ih (by simp) inside
        · exact ih (List.mem_cons_of_mem _ later) member

/-- A text that goes on behind a separator has the parts of both sides. -/
theorem split_append_separator {p : Char → Bool} {c : Char} (hc : p c = true)
    (before after : List Char) : split p (before ++ c :: after) = split p before ++ split p after := by
  induction before with
  | nil =>
    show split p (c :: after) = [] :: split p after
    rw [split, if_pos hc]
  | cons d before ih =>
    rw [List.cons_append, split, split, ih]
    split
    · rfl
    · cases parts : split p before with
      | nil => exact absurd parts (split_ne_nil p before)
      | cons first rest => rfl

theorem split_append_replicate {p : Char → Bool} {c : Char} (hc : p c = true) (cs : List Char)
    (count : Nat) : split p (cs ++ List.replicate count c) = split p cs ++ List.replicate count [] := by
  induction count with
  | zero => simp
  | succ count ih =>
    rw [List.replicate_succ', ← List.append_assoc, split_append_separator hc, ih, List.append_assoc,
      List.replicate_succ']
    rfl

theorem join_cons_cons (separator part next : List Char) (parts : List (List Char)) :
    join separator (part :: next :: parts) = part ++ separator ++ join separator (next :: parts) :=
  rfl

theorem join_eq_intercalate (separator : List Char) (parts : List (List Char)) :
    join separator parts = separator.intercalate parts := by
  induction parts with
  | nil => rfl
  | cons part parts ih =>
    cases parts with
    | nil => rw [join, List.intercalate_singleton]
    | cons next parts => rw [join_cons_cons, ih, List.intercalate_cons_cons]

/-- Joined texts come apart into the parts of each. -/
theorem split_join_eq_flatMap (c : Char) {parts : List (List Char)} (nonempty : parts ≠ []) :
    split (· == c) (join [c] parts) = parts.flatMap (split (· == c)) := by
  induction parts with
  | nil => exact absurd rfl nonempty
  | cons part parts ih =>
    cases parts with
    | nil => rw [List.flatMap_cons, List.flatMap_nil, List.append_nil, join]
    | cons next parts =>
      rw [List.flatMap_cons, ← ih (List.cons_ne_nil _ _), join_cons_cons, List.append_assoc,
        List.singleton_append, split_append_separator (p := (· == c)) (beq_self_eq_true c)]

theorem flatMap_split_eq_self {p : Char → Bool} {parts : List (List Char)}
    (h : ∀ part ∈ parts, ∀ c ∈ part, p c = false) : parts.flatMap (split p) = parts := by
  induction parts with
  | nil => rfl
  | cons part parts ih =>
    have rest : ∀ other ∈ parts, ∀ c ∈ other, p c = false := fun other inside =>
      h other (List.mem_cons_of_mem _ inside)
    rw [List.flatMap_cons, split_eq_singleton (h part (by simp)), ih rest, List.singleton_append]

/-- Parts without the separator are read back from the joined text. -/
theorem split_join {c : Char} {parts : List (List Char)} (nonempty : parts ≠ [])
    (h : ∀ part ∈ parts, ∀ d ∈ part, (d == c) = false) :
    split (· == c) (join [c] parts) = parts := by
  rw [split_join_eq_flatMap c nonempty, flatMap_split_eq_self h]

theorem mem_join {c d : Char} {parts : List (List Char)} (h : d ∈ join [c] parts) :
    d = c ∨ ∃ part ∈ parts, d ∈ part := by
  induction parts with
  | nil => cases h
  | cons part parts ih =>
    cases parts with
    | nil => exact .inr ⟨part, by simp, h⟩
    | cons next parts =>
      rw [join_cons_cons, List.append_assoc, List.mem_append, List.singleton_append, List.mem_cons] at h
      rcases h with here | separator | later
      · exact .inr ⟨part, by simp, here⟩
      · exact .inl separator
      · rcases ih later with separator | ⟨other, inside, member⟩
        · exact .inl separator
        · exact .inr ⟨other, List.mem_cons_of_mem _ inside, member⟩

theorem mem_join_of_mem {separator part : List Char} {parts : List (List Char)} {c : Char}
    (inside : part ∈ parts) (h : c ∈ part) : c ∈ join separator parts := by
  induction parts with
  | nil => cases inside
  | cons first parts ih =>
    cases parts with
    | nil => rwa [← List.mem_singleton.1 inside]
    | cons next parts =>
      rw [join_cons_cons, List.mem_append, List.mem_append]
      rcases List.mem_cons.1 inside with rfl | behind
      · exact .inl (.inl h)
      · exact .inr (ih behind)

theorem join_ne_nil {separator part : List Char} (h : part ≠ []) (parts : List (List Char)) :
    join separator (part :: parts) ≠ [] := by
  cases parts with
  | nil => exact h
  | cons next parts =>
    rw [join_cons_cons, List.append_assoc]
    exact List.append_ne_nil_of_left_ne_nil h _

end KeyClient.Text
