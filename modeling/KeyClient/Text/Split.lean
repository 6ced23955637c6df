/-!
# Splitting texts

A text is cut at the first separator by `cut`, and taken apart at every separator by `split`.
Both lose nothing: `join_split` puts the parts of a text together again.
-/

namespace KeyClient.Text

/-- The part before the first character that satisfies `p`, and what follows that character. -/
def cut (p : Char → Bool) : List Char → List Char × Option (List Char)
  | [] => ([], none)
  | c :: cs => if p c then ([], some cs) else ((c :: (cut p cs).1), (cut p cs).2)

/-- The parts of a text between the characters that satisfy `p`; there is always one. -/
def split (p : Char → Bool) : List Char → List (List Char)
  | [] => [[]]
  | c :: cs =>
    if p c then [] :: split p cs
    else
      match split p cs with
      | [] => [[c]]
      | part :: rest => (c :: part) :: rest

/-- Parts with a separator between every two of them. -/
def join (separator : List Char) : List (List Char) → List Char
  | [] => []
  | [part] => part
  | part :: rest => part ++ separator ++ join separator rest

@[simp] theorem cut_nil (p : Char → Bool) : cut p [] = ([], none) := rfl

@[simp] theorem split_ne_nil (p : Char → Bool) (cs : List Char) : split p cs ≠ [] := by
  cases cs with
  | nil => simp [split]
  | cons c cs =>
    by_cases h : p c
    · simp [split, h]
    · cases hs : split p cs <;> simp [split, h, hs]

/-- The part before the first separator contains none. -/
theorem cut_fst_eq_takeWhile (p : Char → Bool) (cs : List Char) :
    (cut p cs).1 = cs.takeWhile fun c => !p c := by
  induction cs with
  | nil => rfl
  | cons c cs ih => by_cases h : p c <;> simp [cut, h, ih]

/-- A text without separators has one part. -/
theorem split_eq_singleton {p : Char → Bool} {cs : List Char} (h : ∀ c ∈ cs, p c = false) :
    split p cs = [cs] := by
  induction cs with
  | nil => rfl
  | cons c cs ih =>
    have hc : p c = false := h c (by simp)
    simp [split, hc, ih fun d hd => h d (by simp [hd])]

/-- The parts of a text, joined by the separator, are the text. -/
theorem join_split (c : Char) (cs : List Char) : join [c] (split (· == c) cs) = cs := by
  induction cs with
  | nil => rfl
  | cons d cs ih =>
    by_cases h : d = c
    · subst h
      cases hs : split (· == d) cs with
      | nil => exact absurd hs (split_ne_nil _ _)
      | cons part rest =>
        rw [hs] at ih
        simp [split, join, hs, ih]
    · cases hs : split (· == c) cs with
      | nil => exact absurd hs (split_ne_nil _ _)
      | cons part rest =>
        rw [hs] at ih
        cases rest with
        | nil => simpa [split, h, hs, join] using ih
        | cons next rest => simpa [split, h, hs, join] using ih

end KeyClient.Text
