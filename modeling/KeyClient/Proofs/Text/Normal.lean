import KeyClient.Text.Normal

/-!
# Low characters are kept by the normal form

Nothing decomposes below the first composite, and nothing below the first base composes with a
mark.  So a character below both stays in a text that is brought into the normal form
(`mem_normalize`).
-/

namespace KeyClient.Text.Normal

/-! ## Decomposition -/

theorem decompose_of_lt {n : Nat} (h : n < firstComposite) (steps : Nat) :
    decompose steps n = [n] := by
  cases steps with
  | zero => rfl
  | succ steps => rw [decompose, parts?, if_pos h]

theorem mem_insertMark {c e : Char} {cs : List Char} :
    e ∈ insertMark c cs ↔ e = c ∨ e ∈ cs := by
  induction cs with
  | nil => simp [insertMark]
  | cons d ds ih =>
    rw [insertMark]
    split
    · rw [List.mem_cons, ih, List.mem_cons]
      exact or_left_comm
    · exact List.mem_cons

theorem mem_reorder {e : Char} {cs : List Char} : e ∈ reorder cs ↔ e ∈ cs := by
  induction cs with
  | nil => rfl
  | cons c cs ih =>
    rw [reorder, List.foldr_cons, mem_insertMark, ← reorder, ih, List.mem_cons]

/-! ## Composition -/

theorem lt_firstMark_of_lt {n : Nat} (h : n < firstBase) : n < firstMark :=
  Nat.lt_trans h (by decide)

/-- A low character composes with nothing, neither as a base nor as a mark. -/
theorem not_low_of_compose? {a b composed : Char} (h : compose? a b = some composed) :
    firstBase ≤ a.toNat ∧ firstBase ≤ b.toNat := by
  unfold compose? at h
  split at h
  · cases h
  · next high =>
    rw [Bool.or_eq_true, decide_eq_true_eq, decide_eq_true_eq, not_or] at high
    refine ⟨Nat.le_of_not_lt high.1, Nat.le_of_not_lt fun low => high.2 ?_⟩
    exact lt_firstMark_of_lt low

theorem mem_composeAfter {e starter : Char} (low : e.toNat < firstBase) {marks cs : List Char}
    (h : e = starter ∨ e ∈ marks ∨ e ∈ cs) : e ∈ composeAfter starter marks cs := by
  fun_induction composeAfter starter marks cs with
  | case1 starter marks =>
    simpa using h
  | case2 starter marks c cs free composed composes ih =>
    have composable : compose? starter c = some composed := by
      split at composes
      · exact composes
      · cases composes
    -- neither of the two characters that are composed is the low one
    obtain ⟨base, mark⟩ := not_low_of_compose? composable
    refine ih ?_
    rcases h with rfl | inMarks | inRest
    · exact absurd low (Nat.not_lt_of_le base)
    · exact .inr (.inl inMarks)
    · rcases List.mem_cons.1 inRest with rfl | later
      · exact absurd low (Nat.not_lt_of_le mark)
      · exact .inr (.inr later)
  | case3 starter marks c cs free _ isStarter ih =>
    rw [List.mem_append, List.mem_cons, List.mem_reverse]
    rcases h with rfl | inMarks | inRest
    · exact .inl (.inl rfl)
    · exact .inl (.inr inMarks)
    · exact .inr (ih ((List.mem_cons.1 inRest).imp id .inr))
  | case4 starter marks c cs free _ isMark ih =>
    refine ih ?_
    rcases h with rfl | inMarks | inRest
    · exact .inl rfl
    · exact .inr (.inl (List.mem_cons_of_mem _ inMarks))
    · rcases List.mem_cons.1 inRest with rfl | later
      · exact .inr (.inl (List.mem_cons_self ..))
      · exact .inr (.inr later)

theorem mem_compose {e : Char} (low : e.toNat < firstBase) {cs : List Char} (h : e ∈ cs) :
    e ∈ compose cs := by
  induction cs with
  | nil => cases h
  | cons c cs ih =>
    rw [compose]
    split
    · exact mem_composeAfter low ((List.mem_cons.1 h).imp id .inr)
    · exact List.mem_cons.2 ((List.mem_cons.1 h).imp id ih)

/-- A low character stays in a text. -/
theorem mem_normalize {e : Char} (low : e.toNat < firstBase) {cs : List Char} (h : e ∈ cs) :
    e ∈ normalize cs := by
  have whole : e.toNat < firstComposite := Nat.lt_trans low (by decide)
  refine mem_compose low (mem_reorder.2 (List.mem_flatMap.2 ⟨e, h, ?_⟩))
  rw [decompose_of_lt whole, List.map_singleton, Char.ofNat_toNat]
  exact List.mem_singleton_self e

end KeyClient.Text.Normal
