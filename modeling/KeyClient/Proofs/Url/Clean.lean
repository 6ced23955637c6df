import KeyClient.Proofs.Url.Mark
import KeyClient.Proofs.Url.Server
import Mathlib.Data.List.DropRight

/-!
# Cleaned texts

Before an address is read, the blanks at its ends and the breaks inside are dropped.  `opened` is
the text without those before it and those inside, so that it grows with the text (`opened_append`);
a cleaned text is the opened one up to the blanks behind it (`opened_eq_clean_append`), of which
there are none if the text ends in something else (`clean_eq_opened`).
-/

namespace KeyClient.Url

/-- The text without the blanks before it and the breaks inside. -/
def opened (cs : List Char) : List Char := (cs.dropWhile isEdge).filter fun c => !isBreak c

/-- Something other than a blank ends the text. -/
def EndsPlain (cs : List Char) : Prop :=
  ∀ c, (cs.filter fun c => !isBreak c).getLast? = some c → isEdge c = false

theorem clean_eq_rdropWhile (cs : List Char) :
    clean cs = ((cs.dropWhile isEdge).rdropWhile isEdge).filter fun c => !isBreak c := rfl

theorem isBreak_of_not_isEdge {c : Char} (h : isEdge c = false) : isBreak c = false := by
  rw [Bool.eq_false_iff]
  intro dropped
  rw [isBreak, Bool.or_eq_true, Bool.or_eq_true, beq_iff_eq, beq_iff_eq, beq_iff_eq] at dropped
  rcases dropped with (rfl | rfl) | rfl <;> exact absurd h (by decide)

/-- An opened text is a cleaned one with the blanks that were dropped behind it. -/
theorem opened_eq_clean_append (cs : List Char) :
    ∃ blanks, opened cs = clean cs ++ blanks ∧ ∀ c ∈ blanks, isEdge c = true := by
  refine ⟨((cs.dropWhile isEdge).rtakeWhile isEdge).filter fun c => !isBreak c,
    ?_, fun c member => ?_⟩
  · rw [clean_eq_rdropWhile, ← List.filter_append, List.rdropWhile_append_rtakeWhile, opened]
  · exact List.mem_rtakeWhile_imp (List.mem_filter.1 member).1

/-- The end of an opened text is the end of the text. -/
theorem getLast?_opened {cs : List Char} (h : opened cs ≠ []) :
    (opened cs).getLast? = (cs.filter fun c => !isBreak c).getLast? := by
  have parts : cs.filter (fun c => !isBreak c) =
      (cs.takeWhile isEdge).filter (fun c => !isBreak c) ++ opened cs := by
    rw [opened, ← List.filter_append, List.takeWhile_append_dropWhile]
  rw [parts, List.getLast?_append_of_ne_nil _ h]

/-- Nothing is dropped behind a text that ends in something other than a blank. -/
theorem clean_eq_opened {cs : List Char} (h : EndsPlain cs) : clean cs = opened cs := by
  obtain ⟨blanks, parts, edge⟩ := opened_eq_clean_append cs
  by_cases none : blanks = []
  · rw [parts, none, List.append_nil]
  · have last : (opened cs).getLast? = some (blanks.getLast none) := by
      rw [parts, List.getLast?_append_of_ne_nil _ none, List.getLast?_eq_some_getLast none]
    have some : opened cs ≠ [] := by
      rw [parts]
      exact List.append_ne_nil_of_right_ne_nil _ none
    have plain := h _ ((getLast?_opened some).symm.trans last)
    rw [edge _ (List.getLast_mem none)] at plain
    cases plain

/-- Something is dropped behind a text that ends in a blank. -/
theorem exists_edges {cs : List Char} (h : ¬ EndsPlain cs) (some : clean cs ≠ []) :
    ∃ blanks, Edges blanks ∧ opened cs = clean cs ++ blanks := by
  obtain ⟨blanks, parts, edge⟩ := opened_eq_clean_append cs
  refine ⟨blanks, ⟨fun none => h ?_, edge⟩, parts⟩
  rw [none, List.append_nil] at parts
  have kept : (cs.dropWhile isEdge).rdropWhile isEdge ≠ [] := by
    intro empty
    rw [clean_eq_rdropWhile, empty] at some
    exact some rfl
  -- what is left ends in something that is neither a blank nor a break
  have plain : isEdge (((cs.dropWhile isEdge).rdropWhile isEdge).getLast kept) = false :=
    Bool.eq_false_iff.2 (List.rdropWhile_last_not _ _ kept)
  have last : (clean cs).getLast? =
      Option.some (((cs.dropWhile isEdge).rdropWhile isEdge).getLast kept) := by
    rw [clean_eq_rdropWhile]
    conv_lhs => rw [← List.dropLast_concat_getLast kept]
    rw [List.filter_append, List.filter_cons_of_pos (by rw [isBreak_of_not_isEdge plain]; rfl),
      List.filter_nil, List.getLast?_concat]
  intro c ends
  rw [← getLast?_opened (parts ▸ some), parts, last] at ends
  rwa [← Option.some.inj ends]

/-- What stands behind something other than a blank is only freed from breaks. -/
theorem opened_append {cs : List Char} {c : Char} (member : c ∈ cs) (plain : isEdge c = false)
    (more : List Char) : opened (cs ++ more) = opened cs ++ more.filter fun c => !isBreak c := by
  have some : cs.dropWhile isEdge ≠ [] := by
    intro none
    have edge := List.dropWhile_eq_nil_iff.1 none c member
    rw [plain] at edge
    cases edge
  rw [opened, List.dropWhile_append, if_neg (by simpa using some), List.filter_append, opened]

/-- What stands behind something other than a blank and has no blanks is not changed. -/
theorem clean_append {cs : List Char} {c : Char} (member : c ∈ cs) (plain : isEdge c = false)
    {more : List Char} (some : more ≠ []) (unblank : ∀ d ∈ more, isEdge d = false) :
    clean (cs ++ more) = opened cs ++ more := by
  have kept : more.filter (fun d => !isBreak d) = more :=
    List.filter_eq_self.2 fun d inside => by rw [isBreak_of_not_isEdge (unblank d inside)]; rfl
  have ends : EndsPlain (cs ++ more) := by
    intro d last
    rw [List.filter_append, kept, List.getLast?_append_of_ne_nil _ some] at last
    exact unblank d (List.mem_of_getLast? last)
  rw [clean_eq_opened ends, opened_append member plain, kept]

/-! ## Marks -/

/-- What comes before the first mark. -/
def unmarkedPart (cs : List Char) : List Char := cs.takeWhile fun c => !isMark c

theorem cut_cut_eq_unmarkedPart (cs : List Char) :
    (Text.cut (· == '?') (Text.cut (· == '#') cs).1).1 = unmarkedPart cs := by
  rw [Text.cut_fst_eq_takeWhile, Text.cut_fst_eq_takeWhile, List.takeWhile_takeWhile, unmarkedPart]
  congr 1
  funext c
  rw [isMark, Bool.not_or, Bool.decide_and, Bool.decide_coe, Bool.decide_coe]

theorem unmarkedPart_eq_self {cs : List Char} (h : Unmarked cs) : unmarkedPart cs = cs :=
  List.takeWhile_eq_self_iff.2 fun c member => by rw [h c member]; rfl

/-- Nothing behind the first mark counts. -/
theorem unmarkedPart_append {cs : List Char} (h : ¬ Unmarked cs) (more : List Char) :
    unmarkedPart (cs ++ more) = unmarkedPart cs := by
  rw [unmarkedPart, List.takeWhile_append, if_neg, unmarkedPart]
  intro whole
  have self := (List.takeWhile_prefix (l := cs) fun c => !isMark c).eq_of_length whole
  refine h fun c member => ?_
  have unmarked := List.takeWhile_eq_self_iff.1 self c member
  rwa [Bool.not_eq_true'] at unmarked

theorem isEdge_of_isMark {c : Char} (h : isMark c = true) : isEdge c = false := by
  rw [isMark, Bool.or_eq_true, beq_iff_eq, beq_iff_eq] at h
  rcases h with rfl | rfl <;> decide

theorem unmarked_opened {cs : List Char} : Unmarked (opened cs) ↔ Unmarked cs := by
  constructor
  · intro h c member
    by_contra marked
    rw [Bool.not_eq_false] at marked
    -- a mark is neither a blank nor a break, so it is not dropped
    have plain := isEdge_of_isMark marked
    rw [← List.takeWhile_append_dropWhile (p := isEdge) (l := cs), List.mem_append] at member
    rcases member with before | inside
    · have edge := List.mem_takeWhile_imp before
      rw [plain] at edge
      cases edge
    · have kept : c ∈ opened cs :=
        List.mem_filter.2 ⟨inside, by rw [isBreak_of_not_isEdge plain]; rfl⟩
      rw [h c kept] at marked
      cases marked
  · intro h c member
    exact h c ((List.dropWhile_sublist _).mem (List.mem_filter.1 member).1)

theorem unmarked_of_isEdge {cs : List Char} (h : ∀ c ∈ cs, isEdge c = true) : Unmarked cs := by
  intro c member
  by_contra marked
  rw [Bool.not_eq_false] at marked
  have plain := isEdge_of_isMark marked
  rw [h c member] at plain
  cases plain

theorem unmarked_clean {cs : List Char} : Unmarked (clean cs) ↔ Unmarked cs := by
  obtain ⟨blanks, parts, edge⟩ := opened_eq_clean_append cs
  have whole : Unmarked (opened cs) ↔ Unmarked cs := unmarked_opened
  rw [← whole, parts, unmarked_append]
  exact ⟨fun h => ⟨h, unmarked_of_isEdge edge⟩, And.left⟩

/-- The blanks behind a text with a mark do not count. -/
theorem unmarkedPart_clean {cs : List Char} (h : ¬ Unmarked cs) :
    unmarkedPart (clean cs) = unmarkedPart (opened cs) := by
  obtain ⟨blanks, parts, -⟩ := opened_eq_clean_append cs
  rw [parts, unmarkedPart_append fun unmarked => h (unmarked_clean.1 unmarked)]

end KeyClient.Url
