import KeyClient.Url.Path

/-!
# Walking along a path

A path is resolved by walking along its segments with the names that lead to the present directory:
every segment but the last is entered (`Path.enter`), and the last one ends the walk (`Path.close`).
`Path.resolve_concat` says that this is what `Path.resolve` does.
-/

namespace KeyClient.Url.Path

theorem path_of_isLiteral {c : Char} (h : isLiteral c = true) : Percent.path c = false := by
  rw [isLiteral, Bool.and_eq_true, Bool.and_eq_true, Bool.not_eq_true'] at h
  exact h.1.1

/-- The names, last one first, after a segment that is not the last one. -/
def enter (style : Style) (reversed : List (List Char)) (segment : List Char) :
    List (List Char) :=
  if isAbove segment then shorten style reversed
  else if isHere segment then reversed
  else keep style reversed.isEmpty segment :: reversed

/-- The names, last one first, after the last segment. -/
def close (style : Style) (reversed : List (List Char)) (last : List Char) : List (List Char) :=
  if isAbove last then above style reversed
  else if isHere last then [] :: reversed
  else keep style reversed.isEmpty last :: reversed

/-- The names, last one first, after segments of which none is the last one. -/
def walk (style : Style) (segments : List (List Char)) : List (List Char) :=
  segments.foldl (enter style) []

theorem walk_concat (style : Style) (segments : List (List Char)) (segment : List Char) :
    walk style (segments ++ [segment]) = enter style (walk style segments) segment := by
  rw [walk, List.foldl_append, ← walk]
  rfl

theorem resolve_cons {style : Style} {reversed rest : List (List Char)} (segment : List Char)
    (more : rest ≠ []) :
    resolve style reversed (segment :: rest) = resolve style (enter style reversed segment) rest := by
  cases rest with
  | nil => exact absurd rfl more
  | cons next rest =>
    rw [resolve, enter]
    · split
      · rfl
      · split <;> rfl
    · simp

theorem resolve_singleton (style : Style) (reversed : List (List Char)) (last : List Char) :
    resolve style reversed [last] = (close style reversed last).reverse := by
  rw [resolve, close]
  split
  · rfl
  · split <;> rfl

theorem resolve_append_singleton (style : Style) (reversed segments : List (List Char))
    (last : List Char) :
    resolve style reversed (segments ++ [last]) =
      (close style (segments.foldl (enter style) reversed) last).reverse := by
  induction segments generalizing reversed with
  | nil => exact resolve_singleton style reversed last
  | cons segment segments ih =>
    rw [List.cons_append, resolve_cons segment (by simp), ih, List.foldl_cons]

/-- Resolving a path walks along it. -/
theorem resolve_concat (style : Style) (segments : List (List Char)) (last : List Char) :
    resolve style [] (segments ++ [last]) = (close style (walk style segments) last).reverse :=
  resolve_append_singleton style [] segments last

end KeyClient.Url.Path
