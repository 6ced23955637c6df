import KeyClient.CommandLine.Spec
import Mathlib.Data.List.Nodup

/-!
# Names of options

A declared option is spelled with two dashes and more behind them, or with one dash and one
character (`OptionSpec.IsDeclared.cases`).  So its name decides the slot of its value
(`IsDeclared.slot_eq`), and is the name under which matches list the value
(`IsDeclared.matchName_eq_name`).
-/

namespace KeyClient.CommandLine

namespace Flags

/-! ## Spellings -/

theorem of_take?_eq_some {p : String → Bool} {parts : List String} {part : String}
    (h : (take? p parts).1 = some part) : p part = true := by
  unfold take? at h
  split at h
  · split at h
    · next holds =>
      cases h
      exact holds
    · cases h
  · cases h

theorem found_of_complaint? {flags : String} {rest : List String} {found : Bool}
    (h : complaint? flags rest found = none) : found = true := by
  unfold complaint? at h
  dsimp only at h
  split at h
  · cases h
  · split at h
    · assumption
    · cases h

/-- A text declares a long spelling, or a short one alone. -/
theorem spelled_of_parse? {flags : String} {spellings : Flags}
    (h : parse? flags = .ok spellings) :
    (∃ long, spellings.long = some long ∧ isLong long = true) ∨
      ∃ short, spellings = ⟨some short, none⟩ ∧ isShort short = true := by
  unfold parse? at h
  cases first : take? isShort (parts flags) with
  | mk short rest =>
    cases second : take? isLong rest with
    | mk long rest =>
      cases third : take? (fun part => short.isNone && isShort part) rest with
      | mk late rest =>
        cases fourth : take? (fun part => (short.or late).isNone && isLong part) rest with
        | mk extra rest =>
          simp only [first, second, third, fourth] at h
          split at h
          · cases h
          · next complete =>
            have found := found_of_complaint? complete
            cases h
            cases extra with
            | some part =>
              have long : (short.or late).isNone = true ∧ isLong part = true := by
                simpa using of_take?_eq_some (congrArg Prod.fst fourth)
              exact .inl ⟨part, rfl, long.2⟩
            | none =>
              cases long with
              | some part => exact .inl ⟨part, rfl, of_take?_eq_some (congrArg Prod.fst second)⟩
              | none =>
                cases short with
                | some part =>
                  exact .inr ⟨part, rfl, of_take?_eq_some (congrArg Prod.fst first)⟩
                | none =>
                  cases late with
                  | some part =>
                    exact .inr ⟨part, rfl, of_take?_eq_some (congrArg Prod.fst third)⟩
                  | none => cases found

end Flags

namespace OptionSpec

/-- The spellings are those that the flags declare. -/
def IsDeclared (spec : OptionSpec) : Prop := Flags.parse? spec.flags = .ok spec.spellings

variable {spec other : OptionSpec}

/-- How an option that is declared is spelled: by a long spelling, or by a short one alone. -/
theorem IsDeclared.cases (h : spec.IsDeclared) :
    (∃ long name, spec.spellings.long = some long ∧ long.toList = '-' :: '-' :: name) ∨
      ∃ short c, spec.spellings = ⟨some short, none⟩ ∧ c ≠ '-' ∧ short.toList = ['-', c] := by
  rcases Flags.spelled_of_parse? h with ⟨long, spelled, isLong⟩ | ⟨short, spelled, isShort⟩
  · unfold Flags.isLong at isLong
    split at isLong
    · next c name chars => exact .inl ⟨long, c :: name, spelled, chars⟩
    · cases isLong
  · unfold Flags.isShort at isShort
    split at isShort
    · next c chars =>
      have ne := bne_iff_ne.1 (Bool.and_eq_true_iff.1 isShort).1
      exact .inr ⟨short, c, spelled, ne, chars⟩
    · cases isShort

/-- Whether an option switches something off shows in its name. -/
theorem IsDeclared.isNegated_eq (h : spec.IsDeclared) :
    spec.isNegated = ['n', 'o', '-'].isPrefixOf spec.name.toList := by
  rcases h.cases with ⟨long, name, spelled, chars⟩ | ⟨short, c, spelled, -, chars⟩
  · unfold isNegated OptionSpec.name
    rw [spelled]
    dsimp only
    rw [bare, String.toList_ofList, Option.any_some, chars]
    rfl
  · unfold isNegated OptionSpec.name
    rw [spelled]
    dsimp only
    rw [bare, String.toList_ofList, chars]
    simp [List.isPrefixOf]

/-- Options of one name share a slot. -/
theorem IsDeclared.slot_eq (h : spec.IsDeclared) (h' : other.IsDeclared)
    (same : spec.name = other.name) : spec.slot = other.slot := by
  rw [slot, slot, words, words, h.isNegated_eq, h'.isNegated_eq, same]

/-- Matches list the value of an option under its name. -/
theorem IsDeclared.matchName_eq_name (h : spec.IsDeclared) : spec.matchName = spec.name := by
  rcases h.cases with ⟨long, name, spelled, -⟩ | ⟨short, c, spelled, ne, chars⟩
  · unfold matchName OptionSpec.name
    rw [spelled]
  · have name : spec.name.toList = [c] := by
      unfold OptionSpec.name
      rw [spelled]
      dsimp only
      rw [bare, String.toList_ofList, chars]
      rfl
    have plain : spec.isNegated = false := by
      unfold isNegated
      rw [spelled]
      rfl
    have parts : spec.words = [[c]] := by
      rw [words, plain, name]
      simp [Text.split, ne]
    unfold matchName
    rw [spelled]
    dsimp only
    rw [slot, parts, ← String.toList_inj, String.toList_ofList, name]
    simp [joinWords]

end OptionSpec

end KeyClient.CommandLine
