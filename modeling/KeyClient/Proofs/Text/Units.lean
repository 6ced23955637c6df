import KeyClient.Text.Units

/-!
# Code units are read back

`ofUnits_units` says that a text is read back from its code units.  A character is no surrogate, so
its units are one unit that is no surrogate either, or a pair of surrogates.  What any units are read
as is told by `Spelled`: a surrogate that is not in a pair is read as the replacement character
(`Wide.text_eq_iff`).
-/

namespace KeyClient.Text

/-- A character is no surrogate. -/
theorem scalar (c : Char) : c.toNat < 0xD800 ∨ 0xDFFF < c.toNat ∧ c.toNat < 0x110000 := c.valid

theorem ofUnit_toNat (c : Char) : ofUnit c.toNat = c := by
  have outside := scalar c
  have plain : (isHigh c.toNat || isLow c.toNat) = false := by
    simp only [isHigh, isLow, Bool.or_eq_false_iff, Bool.and_eq_false_iff, decide_eq_false_iff_not]
    omega
  simp [ofUnit, plain]

theorem isHigh_toNat (c : Char) : isHigh c.toNat = false := by
  have outside := scalar c
  simp only [isHigh, Bool.and_eq_false_iff, decide_eq_false_iff_not]
  omega

/-- The units of a character are read back, whatever comes behind them. -/
theorem ofUnits_charUnits_append (c : Char) (rest : List Nat) :
    ofUnits (charUnits c ++ rest) = c :: ofUnits rest := by
  have outside := scalar c
  by_cases basic : c.toNat < 0x10000
  · rw [charUnits, if_pos basic, List.singleton_append]
    cases rest with
    | nil => simp [ofUnits, ofUnit_toNat]
    | cons unit rest => simp [ofUnits, ofUnit_toNat, isHigh_toNat]
  · rw [charUnits, if_neg basic, List.cons_append, List.singleton_append]
    have pair : (isHigh (0xD800 + (c.toNat - 0x10000) / 0x400) &&
        isLow (0xDC00 + (c.toNat - 0x10000) % 0x400)) = true := by
      simp only [isHigh, isLow, Bool.and_eq_true, decide_eq_true_eq]
      omega
    have whole : 0x10000 + (0xD800 + (c.toNat - 0x10000) / 0x400 - 0xD800) * 0x400 +
        (0xDC00 + (c.toNat - 0x10000) % 0x400 - 0xDC00) = c.toNat := by omega
    rw [ofUnits, if_pos pair, ofPair, whole, Char.ofNat_toNat]

/-- A text is read back from its units. -/
theorem ofUnits_units (cs : List Char) : ofUnits (units cs) = cs := by
  induction cs with
  | nil => rfl
  | cons c cs ih => rw [units, List.flatMap_cons, ofUnits_charUnits_append, ← units, ih]

/-! ## Surrogates without their partners -/

/-- The units are a pair of surrogates and others behind it. -/
def StartsWithPair : List Nat → Prop
  | high :: low :: _ => (0xD800 ≤ high ∧ high < 0xDC00) ∧ 0xDC00 ≤ low ∧ low < 0xE000
  | _ => False

/-- The characters that some units spell: those that they encode, and for each surrogate that is not
in a pair the replacement character. -/
inductive Spelled : List Nat → List Char → Prop
  | nil : Spelled [] []
  | basic {c : Char} {rest : List Nat} {cs : List Char} (spelled : Spelled rest cs) :
      Spelled (c.toNat :: rest) (c :: cs)
  | pair {high low : Nat} {c : Char} {rest : List Nat} {cs : List Char}
      (pair : StartsWithPair (high :: low :: rest))
      (value : c.toNat = 0x10000 + (high - 0xD800) * 0x400 + (low - 0xDC00))
      (spelled : Spelled rest cs) : Spelled (high :: low :: rest) (c :: cs)
  | alone {unit : Nat} {rest : List Nat} {cs : List Char}
      (surrogate : 0xD800 ≤ unit ∧ unit < 0xE000) (alone : ¬ StartsWithPair (unit :: rest))
      (spelled : Spelled rest cs) : Spelled (unit :: rest) ('\uFFFD' :: cs)

theorem isHigh_and_isLow_iff {high low : Nat} {rest : List Nat} :
    (isHigh high && isLow low) = true ↔ StartsWithPair (high :: low :: rest) := by
  simp [isHigh, isLow, StartsWithPair]

theorem ofUnit_of_isSurrogate {unit : Nat} (h : 0xD800 ≤ unit ∧ unit < 0xE000) :
    ofUnit unit = '\uFFFD' := by
  refine if_pos ?_
  simp only [isHigh, isLow, Bool.or_eq_true, Bool.and_eq_true, decide_eq_true_eq]
  omega

/-- A unit that does not open a pair is read on its own. -/
theorem ofUnits_cons {unit : Nat} {rest : List Nat} (h : ¬ StartsWithPair (unit :: rest)) :
    ofUnits (unit :: rest) = ofUnit unit :: ofUnits rest := by
  cases rest with
  | nil => rfl
  | cons next rest => rw [ofUnits, if_neg fun pair => h (isHigh_and_isLow_iff.1 pair)]

theorem not_startsWithPair_toNat (c : Char) (rest : List Nat) :
    ¬ StartsWithPair (c.toNat :: rest) := by
  have outside := scalar c
  cases rest with
  | nil => exact id
  | cons next rest =>
    rintro ⟨high, -⟩
    omega

/-- Units spell nothing but the text that they are read as. -/
theorem Spelled.eq_ofUnits {us : List Nat} {cs : List Char} (h : Spelled us cs) :
    cs = ofUnits us := by
  induction h with
  | nil => rfl
  | @basic c rest cs spelled ih =>
    rw [ofUnits_cons (not_startsWithPair_toNat c rest), ofUnit_toNat, ← ih]
  | @pair high low c rest cs pair value spelled ih =>
    rw [ofUnits, if_pos (isHigh_and_isLow_iff.2 pair), ofPair, ← value, Char.ofNat_toNat, ← ih]
  | alone surrogate alone spelled ih => rw [ofUnits_cons alone, ofUnit_of_isSurrogate surrogate, ← ih]

theorem toNat_ofNat {n : Nat} (h : n.isValidChar) : (Char.ofNat n).toNat = n := by
  rw [Char.ofNat, dif_pos h]
  rfl

/-- A unit that does not open a pair spells what it is read as. -/
theorem Spelled.cons {unit : Nat} {rest : List Nat} {cs : List Char} (small : unit < 0x10000)
    (alone : ¬ StartsWithPair (unit :: rest)) (spelled : Spelled rest cs) :
    Spelled (unit :: rest) (ofUnit unit :: cs) := by
  by_cases surrogate : 0xD800 ≤ unit ∧ unit < 0xE000
  · rw [ofUnit_of_isSurrogate surrogate]
    exact .alone surrogate alone spelled
  · have value : (ofUnit unit).toNat = unit := by
      rw [ofUnit, if_neg, toNat_ofNat]
      · show unit < 0xD800 ∨ 0xDFFF < unit ∧ unit < 0x110000
        omega
      · simp only [isHigh, isLow, Bool.or_eq_true, Bool.and_eq_true, decide_eq_true_eq]
        omega
    have basic := Spelled.basic (c := ofUnit unit) spelled
    rwa [value] at basic

/-- Units of 16 bits spell the text that they are read as. -/
theorem spelled_ofUnits {us : List Nat} (small : ∀ unit ∈ us, unit < 0x10000) :
    Spelled us (ofUnits us) := by
  fun_induction ofUnits us with
  | case1 => exact .nil
  | case2 unit => exact .cons (small unit List.mem_cons_self) id .nil
  | case3 high low rest pair ih =>
    have pair : StartsWithPair (high :: low :: rest) := isHigh_and_isLow_iff.1 pair
    refine .pair pair ?_ (ih fun unit member =>
      small unit (List.mem_cons_of_mem _ (List.mem_cons_of_mem _ member)))
    obtain ⟨⟨above, below⟩, above', below'⟩ := pair
    rw [ofPair, toNat_ofNat]
    show _ < 0xD800 ∨ 0xDFFF < _ ∧ _ < 0x110000
    omega
  | case4 unit next rest unpaired ih =>
    exact .cons (small unit List.mem_cons_self) (fun pair => unpaired (isHigh_and_isLow_iff.2 pair))
      (ih fun unit member => small unit (List.mem_cons_of_mem _ member))

namespace Wide

/-- The text of a wide text is what its units spell. -/
theorem text_eq_iff {wide : Wide} {s : String} :
    wide.text = s ↔ Spelled (wide.units.map UInt16.toNat) s.toList := by
  have small : ∀ unit ∈ wide.units.map UInt16.toNat, unit < 0x10000 := by
    intro unit member
    obtain ⟨own, -, rfl⟩ := List.mem_map.1 member
    exact own.toNat_lt
  constructor
  · rintro rfl
    rw [text, String.toList_ofList]
    exact spelled_ofUnits small
  · intro spelled
    rw [text, ← spelled.eq_ofUnits, String.ofList_toList]

theorem lt_of_mem_units {cs : List Char} {unit : Nat} (h : unit ∈ Text.units cs) :
    unit < 0x10000 := by
  obtain ⟨c, -, member⟩ := List.mem_flatMap.1 h
  have outside := scalar c
  rw [charUnits] at member
  split at member
  · next basic =>
    rw [List.mem_singleton] at member
    omega
  · simp only [List.mem_cons, List.not_mem_nil, or_false] at member
    omega

/-- A text is what is read of its own units. -/
theorem text_ofText (s : String) : (ofText s).text = s := by
  have same : (ofText s).units.map UInt16.toNat = Text.units s.toList := by
    rw [ofText, List.map_map]
    refine (List.map_congr_left fun unit member => ?_).trans (List.map_id _)
    exact Nat.mod_eq_of_lt (lt_of_mem_units member)
  rw [text, same, ofUnits_units, String.ofList_toList]

end Wide

end KeyClient.Text
