import KeyClient.Proofs.Text.Words
import KeyClient.Value.Display

/-!
# The layout of containers

A container is displayed on one line or with one entry on a line.  Its words are the same either way
(`words_enclose`): the brackets, and between them the words of the entries in their order.
-/

namespace KeyClient.Display

open Text

variable {format : DisplayFormat}

/-! ## Words of a container -/

theorem isGap_spaces (count : Nat) : ∀ c ∈ spaces count, isGap c = true := by
  intro c mem
  rw [List.eq_of_mem_replicate mem]
  rfl

/-- A line end with the indentation behind it. -/
theorem isGap_line (indent : Nat) : IsGap ('\n' :: spaces indent) where
  nonempty := List.cons_ne_nil _ _
  gaps := List.forall_mem_cons.2 ⟨rfl, isGap_spaces indent⟩

/-- What stands between two entries on lines of their own. -/
theorem isGap_comma_line (indent : Nat) :
    IsGap ((',' :: '\n' :: spaces indent) ++ [' ', ' ']) where
  nonempty := List.append_ne_nil_of_left_ne_nil (List.cons_ne_nil _ _) _
  gaps := by
    intro c mem
    rcases List.mem_append.1 mem with front | behind
    · rcases List.mem_cons.1 front with rfl | line
      · rfl
      · exact (isGap_line indent).gaps c line
    · exact isGap_spaces 2 c behind

theorem isGap_comma_space : IsGap [',', ' '] where
  nonempty := List.cons_ne_nil _ _
  gaps := List.forall_mem_cons.2 ⟨rfl, isGap_spaces 1⟩

theorem words_bracket {bracket : Char} (h : isGap bracket = false) :
    words [bracket] = [String.singleton bracket] :=
  words_eq_singleton (List.cons_ne_nil _ _) fun c mem => by rwa [List.mem_singleton.1 mem]

/-- The words of a container are its brackets and the words of its entries. -/
theorem words_enclose {opening closing : Char} (opens : isGap opening = false)
    (closes : isGap closing = false) (indent : Nat) (flat : Bool) (entries : List (List Char)) :
    words (enclose format indent opening closing flat entries) =
      String.singleton opening :: (entries.flatMap words ++ [String.singleton closing]) := by
  unfold enclose
  split
  · have parts : opening :: ' ' :: ([',', ' '].intercalate entries ++ [' ', closing]) =
        [opening] ++ ' ' :: ([',', ' '].intercalate entries ++ ' ' :: [closing]) := rfl
    rw [parts, words_append_cons rfl, words_append_cons rfl, words_intercalate isGap_comma_space,
      words_bracket opens, words_bracket closes, List.singleton_append]
  · have parts : ∀ between : List Char,
        opening :: (('\n' :: spaces indent) ++ [' ', ' '] ++ between ++ ('\n' :: spaces indent) ++
          [closing]) =
        [opening] ++ ('\n' :: spaces indent) ++
          (spaces 2 ++ (between ++ ('\n' :: spaces indent) ++ [closing])) := by
      intro between
      simp [spaces]
    rw [parts, words_append_gap_append (isGap_line indent), words_gap_append (isGap_spaces 2),
      words_append_gap_append (isGap_line indent), words_intercalate (isGap_comma_line indent),
      words_bracket opens, words_bracket closes, List.singleton_append]

/-! ## Entries of an object -/

theorem members_cons (level indent last : Nat) (name : String) (v : Value) (rest : Members) :
    (members format level indent last ((name, v) :: rest)).1 =
      (key name ++ ':' :: ' ' :: (value format level indent last v).1) ::
        (members format level indent (value format level indent last v).2 rest).1 := by
  rw [members]

/-- The members behind others are displayed behind them. -/
theorem members_append (format : DisplayFormat) (level indent last : Nat) (ms others : Members) :
    ∃ last', (members format level indent last (ms ++ others)).1 =
      (members format level indent last ms).1 ++ (members format level indent last' others).1 := by
  induction ms generalizing last with
  | nil => exact ⟨last, by rw [members.eq_1]; rfl⟩
  | cons member rest ih =>
    obtain ⟨name, v⟩ := member
    obtain ⟨last', behind⟩ := ih (value format level indent last v).2
    exact ⟨last', by rw [List.cons_append, members_cons, members_cons, behind, List.cons_append]⟩

/-- The entry of a member has the words of its key and of its value. -/
theorem words_entry (name : String) (entry : List Char) :
    words (key name ++ ':' :: ' ' :: entry) = words (key name ++ [':']) ++ words entry := by
  have parts : key name ++ ':' :: ' ' :: entry = (key name ++ [':']) ++ ' ' :: entry := by simp
  rw [parts, words_append_cons rfl]

theorem value_object (level indent last : Nat) (ms : Members) :
    value format level indent last (.object ms) =
      if ms.isEmpty then (['\x7b', '\x7d'], last)
      else if isBeyond format level then ("[Object]".toList, last)
      else
        (enclose format indent '\x7b' '\x7d'
            ((members format (level + 1) (indent + 2) level ms).2 < level + format.levelsPerLine)
            (members format (level + 1) (indent + 2) level ms).1,
          (members format (level + 1) (indent + 2) level ms).2) := rfl

/-- The words of a displayed object are its braces and the words of its members. -/
theorem words_display_object {ms : Members} (some : ms ≠ []) :
    words ((Value.object ms).display .full).toList =
      "\x7b" :: ((members .full 1 2 0 ms).1.flatMap words ++ ["\x7d"]) := by
  have full : ms.isEmpty = false := List.isEmpty_eq_false_iff.2 some
  rw [Value.display, String.toList_ofList, value_object, full, if_neg Bool.false_ne_true,
    if_neg (by simp [isBeyond, DisplayFormat.full]), words_enclose rfl rfl]
  rfl

end KeyClient.Display
