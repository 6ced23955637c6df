import KeyClient.Proofs.Text.Split

/-!
# Words

The words of a text are what stands between its commas, spaces and line ends.  How the text is laid
out, on one line or on several, makes no difference to them: parts with any gap between them have
the words of the parts (`words_intercalate`).
-/

namespace KeyClient.Text

/-- Whether the character stands between words. -/
def isGap (c : Char) : Bool := c == ',' || c == ' ' || c == '\n'

/-- The words of a text. -/
def words (cs : List Char) : List String :=
  ((split isGap cs).filter fun part => !part.isEmpty).map String.ofList

/-- A text of gaps, at least one. -/
structure IsGap (cs : List Char) : Prop where
  nonempty : cs ≠ []
  gaps : ∀ c ∈ cs, isGap c = true

/-- A text comes apart into words where there is a gap. -/
theorem words_append_cons {c : Char} (h : isGap c = true) (before after : List Char) :
    words (before ++ c :: after) = words before ++ words after := by
  rw [words, split_append_separator h, List.filter_append, List.map_append, words, words]

@[simp] theorem words_nil : words [] = [] := rfl

theorem words_cons {c : Char} (h : isGap c = true) (cs : List Char) : words (c :: cs) = words cs := by
  have apart := words_append_cons h [] cs
  rwa [words_nil, List.nil_append, List.nil_append] at apart

/-- Gaps before a text are no part of its words. -/
theorem words_gap_append {gap : List Char} (h : ∀ c ∈ gap, isGap c = true) (cs : List Char) :
    words (gap ++ cs) = words cs := by
  induction gap with
  | nil => rfl
  | cons c gap ih =>
    rw [List.cons_append, words_cons (h c (by simp)), ih fun d mem => h d (by simp [mem])]

theorem words_append_gap_append {gap : List Char} (h : IsGap gap) (before after : List Char) :
    words (before ++ gap ++ after) = words before ++ words after := by
  obtain ⟨nonempty, gaps⟩ := h
  cases gap with
  | nil => exact absurd rfl nonempty
  | cons c gap =>
    rw [List.append_assoc, List.cons_append, words_append_cons (gaps c (by simp)),
      words_gap_append fun d mem => gaps d (by simp [mem])]

/-- A text without gaps is one word. -/
theorem words_eq_singleton {cs : List Char} (nonempty : cs ≠ []) (h : ∀ c ∈ cs, isGap c = false) :
    words cs = [String.ofList cs] := by
  rw [words, split_eq_singleton h]
  simp [nonempty]

/-- Parts with gaps between them have the words of the parts. -/
theorem words_intercalate {gap : List Char} (h : IsGap gap) (parts : List (List Char)) :
    words (gap.intercalate parts) = parts.flatMap words := by
  induction parts with
  | nil => rfl
  | cons part rest ih =>
    cases rest with
    | nil => rw [List.intercalate_singleton, List.flatMap_cons, List.flatMap_nil, List.append_nil]
    | cons next rest =>
      rw [List.intercalate_cons_cons, words_append_gap_append h, ih]
      rfl

end KeyClient.Text
