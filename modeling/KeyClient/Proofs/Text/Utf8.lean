import KeyClient.Text.Utf8

/-!
# UTF-8 is read back

`decode_encode` says that a text is read back from its octets.  It rests on `run_encodeChar`: the
octets of one character take the reader from between two characters to between two characters, and
yield the character.
-/

namespace KeyClient.Text.Utf8

namespace Decoder

theorem run_cons (state : Decoder) (octet : UInt8) (rest : List UInt8) :
    run state (octet :: rest) = (step state octet).1 ++ run (step state octet).2 rest := rfl

/-! ## Single octets -/

theorem toNat_octet {n : Nat} (h : n < 256) : (UInt8.ofNat n).toNat = n :=
  UInt8.toNat_ofNat_of_lt' h

/-- An octet that goes on with a character of which more than one octet is needed. -/
theorem step_more {needed low high bits k : Nat} (fewer : k < 0x40) (least : low ≤ 0x80 + k)
    (greatest : 0x80 + k ≤ high) :
    step (some ⟨needed + 2, low, high, bits⟩) (UInt8.ofNat (0x80 + k)) =
      ([], some ⟨needed + 1, 0x80, 0xBF, bits * 0x40 + k⟩) := by
  have octet : (UInt8.ofNat (0x80 + k)).toNat = 0x80 + k := toNat_octet (by omega)
  simp only [step, octet, least, greatest, decide_true, Bool.and_self, if_true]
  rw [if_neg (by omega), Nat.add_sub_cancel_left]
  rfl

/-- The octet that completes a character. -/
theorem step_last {low high bits k : Nat} (fewer : k < 0x40) (least : low ≤ 0x80 + k)
    (greatest : 0x80 + k ≤ high) :
    step (some ⟨1, low, high, bits⟩) (UInt8.ofNat (0x80 + k)) =
      ([Char.ofNat (bits * 0x40 + k)], none) := by
  have octet : (UInt8.ofNat (0x80 + k)).toNat = 0x80 + k := toNat_octet (by omega)
  simp only [step, octet, least, greatest, decide_true, Bool.and_self, if_true]
  rw [if_pos (Nat.le_refl 1), Nat.add_sub_cancel_left]

theorem step_one {n : Nat} (h : n < 0x80) :
    step none (UInt8.ofNat n) = ([Char.ofNat n], none) := by
  have octet : (UInt8.ofNat n).toNat = n := toNat_octet (by omega)
  simp only [step, octet, start]
  rw [if_pos h]

theorem step_two {k : Nat} (least : 2 ≤ k) (fewer : k < 0x20) :
    step none (UInt8.ofNat (0xC0 + k)) = ([], some ⟨1, 0x80, 0xBF, k⟩) := by
  have octet : (UInt8.ofNat (0xC0 + k)).toNat = 0xC0 + k := toNat_octet (by omega)
  simp only [step, octet, start]
  rw [if_neg (by omega), if_pos (by simp; omega), Nat.add_sub_cancel_left]

theorem step_three {k : Nat} (fewer : k < 0x10) :
    step none (UInt8.ofNat (0xE0 + k)) =
      ([], some ⟨2, if k = 0 then 0xA0 else 0x80, if k = 0xD then 0x9F else 0xBF, k⟩) := by
  have octet : (UInt8.ofNat (0xE0 + k)).toNat = 0xE0 + k := toNat_octet (by omega)
  have low : 0xE0 + k = 0xE0 ↔ k = 0 := by omega
  have high : 0xE0 + k = 0xED ↔ k = 0xD := by omega
  simp only [step, octet, start, low, high]
  rw [if_neg (by omega), if_neg (by simp), if_pos (by simp; omega), Nat.add_sub_cancel_left]

theorem step_four {k : Nat} (fewer : k < 5) :
    step none (UInt8.ofNat (0xF0 + k)) =
      ([], some ⟨3, if k = 0 then 0x90 else 0x80, if k = 4 then 0x8F else 0xBF, k⟩) := by
  have octet : (UInt8.ofNat (0xF0 + k)).toNat = 0xF0 + k := toNat_octet (by omega)
  have low : 0xF0 + k = 0xF0 ↔ k = 0 := by omega
  have high : 0xF0 + k = 0xF4 ↔ k = 4 := by omega
  simp only [step, octet, start, low, high]
  rw [if_neg (by omega), if_neg (by simp; omega), if_neg (by simp), if_pos (by simp; omega),
    Nat.add_sub_cancel_left]

/-! ## Characters -/

theorem run_two {n : Nat} (least : 0x80 ≤ n) (fewer : n < 0x800) (rest : List UInt8) :
    run none (UInt8.ofNat (0xC0 + n / 0x40) :: UInt8.ofNat (0x80 + n % 0x40) :: rest) =
      Char.ofNat n :: run none rest := by
  have bits : n / 0x40 * 0x40 + n % 0x40 = n := by omega
  rw [run_cons, step_two (by omega) (by omega), run_cons,
    step_last (by omega) (by omega) (by omega), bits]
  rfl

theorem run_three {n : Nat} (least : 0x800 ≤ n) (fewer : n < 0x10000)
    (scalar : n < 0xD800 ∨ 0xDFFF < n) (rest : List UInt8) :
    run none (UInt8.ofNat (0xE0 + n / 0x1000) :: UInt8.ofNat (0x80 + n / 0x40 % 0x40) ::
      UInt8.ofNat (0x80 + n % 0x40) :: rest) = Char.ofNat n :: run none rest := by
  have bits : (n / 0x1000 * 0x40 + n / 0x40 % 0x40) * 0x40 + n % 0x40 = n := by omega
  rw [run_cons, step_three (by omega), run_cons,
    step_more (by omega) (by split <;> omega) (by split <;> omega), run_cons,
    step_last (by omega) (by omega) (by omega), bits]
  rfl

theorem run_four {n : Nat} (least : 0x10000 ≤ n) (fewer : n < 0x110000) (rest : List UInt8) :
    run none (UInt8.ofNat (0xF0 + n / 0x40000) :: UInt8.ofNat (0x80 + n / 0x1000 % 0x40) ::
      UInt8.ofNat (0x80 + n / 0x40 % 0x40) :: UInt8.ofNat (0x80 + n % 0x40) :: rest) =
        Char.ofNat n :: run none rest := by
  -- the first octet has the three highest bits, and each of the others six more
  have bits : ((n / 0x40000 * 0x40 + n / 0x1000 % 0x40) * 0x40 + n / 0x40 % 0x40) * 0x40 +
      n % 0x40 = n := by omega
  rw [run_cons, step_four (by omega), run_cons,
    step_more (by omega) (by split <;> omega) (by split <;> omega), run_cons,
    step_more (by omega) (by omega) (by omega), run_cons,
    step_last (by omega) (by omega) (by omega), bits]
  rfl

/-- The octets of a character yield it. -/
theorem run_encodeChar (c : Char) (rest : List UInt8) :
    run none (encodeChar c ++ rest) = c :: run none rest := by
  have scalar : c.toNat < 0xD800 ∨ 0xDFFF < c.toNat ∧ c.toNat < 0x110000 := c.valid
  have self : Char.ofNat c.toNat = c := Char.ofNat_toNat c
  unfold encodeChar
  simp only
  -- one case for each number of octets
  split
  · next small =>
    rw [List.singleton_append, run_cons, step_one small, self]
    rfl
  · split
    · next _ small =>
      exact (run_two (by omega) small rest).trans (by rw [self])
    · split
      · next _ small =>
        exact (run_three (by omega) small (by omega) rest).trans (by rw [self])
      · exact (run_four (by omega) (by omega) rest).trans (by rw [self])

/-! ## Octets below 0x80 -/

/-- A reader that waits for an octet waits for one from 0x80 on. -/
def IsSound (state : Decoder) : Prop := ∀ start, state = some start → 0x80 ≤ start.low

theorem isSound_none : IsSound none := by
  intro start h
  cases h

theorem isSound_some {start : Partial} (h : 0x80 ≤ start.low) : IsSound (some start) := by
  rintro _ ⟨⟩
  exact h

theorem isSound_start (n : Nat) : IsSound (start n).2 := by
  unfold start
  split
  · exact isSound_none
  split
  · exact isSound_some (Nat.le_refl _)
  split
  · refine isSound_some ?_
    show 0x80 ≤ if n = 0xE0 then 0xA0 else 0x80
    split <;> omega
  split
  · refine isSound_some ?_
    show 0x80 ≤ if n = 0xF0 then 0x90 else 0x80
    split <;> omega
  · exact isSound_none

theorem isSound_step (state : Decoder) (octet : UInt8) : IsSound (step state octet).2 := by
  unfold step
  simp only
  split
  · exact isSound_start _
  · split
    · split
      · exact isSound_none
      · exact isSound_some (Nat.le_refl _)
    · exact isSound_start _

/-- An octet below 0x80 is read as the character that it stands for, whatever came before it. -/
theorem mem_step {state : Decoder} (sound : IsSound state) {octet : UInt8}
    (small : octet.toNat < 0x80) : Char.ofNat octet.toNat ∈ (step state octet).1 := by
  have own : start octet.toNat = ([Char.ofNat octet.toNat], none) := by
    rw [start, if_pos small]
  unfold step
  split
  · rw [own]
    exact List.mem_singleton_self _
  · next low _ _ =>
    -- the octet is below the range that the reader waits for, so it is read afresh
    have least : 0x80 ≤ low := sound _ rfl
    simp only [own]
    rw [if_neg (by simp; omega)]
    exact List.mem_cons_of_mem _ (List.mem_singleton_self _)

theorem mem_run {state : Decoder} (sound : IsSound state) {octets : List UInt8} {octet : UInt8}
    (small : octet.toNat < 0x80) (h : octet ∈ octets) :
    Char.ofNat octet.toNat ∈ run state octets := by
  induction octets generalizing state with
  | nil => cases h
  | cons first octets ih =>
    rw [run_cons, List.mem_append]
    rcases List.mem_cons.1 h with rfl | later
    · exact .inl (mem_step sound small)
    · exact .inr (ih (isSound_step state first) later)

end Decoder

/-! ## Texts -/

theorem decode_encodeChar_append (c : Char) (octets : List UInt8) :
    decode (encodeChar c ++ octets) = c :: decode octets := Decoder.run_encodeChar c octets

/-- A text is read back from its octets. -/
theorem decode_encode (cs : List Char) : decode (encode cs) = cs := by
  induction cs with
  | nil => rfl
  | cons c cs ih =>
    rw [encode, List.flatMap_cons, decode_encodeChar_append, ← encode, ih]

/-- An octet below 0x80 is never lost. -/
theorem mem_decode {octets : List UInt8} {octet : UInt8} (small : octet.toNat < 0x80)
    (h : octet ∈ octets) : Char.ofNat octet.toNat ∈ decode octets :=
  Decoder.mem_run Decoder.isSound_none small h

end KeyClient.Text.Utf8
