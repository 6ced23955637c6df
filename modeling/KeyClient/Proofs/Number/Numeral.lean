import KeyClient.Number.Numeral
import Mathlib.Data.List.TakeWhile

/-!
# Whole numbers are read back

The digits of a natural number are read back as a numeral (`Decimal.scan?_toDigits`), and the double
nearest to a numeral below the bound of exact numbers is the number itself
(`Decimal.toNumber_of_lt`).
-/

namespace KeyClient

/-! ## Digits -/

theorem isDigit_of_mem_toDigits {n : Nat} {c : Char} (h : c ∈ Nat.toDigits 10 n) :
    c.isDigit = true := Nat.isDigit_of_mem_toDigits (by omega) (by omega) h

theorem takeWhile_toDigits (n : Nat) :
    (Nat.toDigits 10 n).takeWhile Char.isDigit = Nat.toDigits 10 n :=
  List.takeWhile_eq_self_iff.2 fun _ h => isDigit_of_mem_toDigits h

theorem dropWhile_toDigits (n : Nat) : (Nat.toDigits 10 n).dropWhile Char.isDigit = [] :=
  List.dropWhile_eq_nil_iff.2 fun _ h => isDigit_of_mem_toDigits h

/-- No superfluous zero stands at the start of the digits. -/
theorem head?_toDigits_ne {n : Nat} (positive : 0 < n) :
    (Nat.toDigits 10 n).head? ≠ some '0' := by
  induction n using Nat.strongRecOn with
  | _ n ih =>
    by_cases small : n < 10
    · rw [Nat.toDigits_of_lt_base small]
      simp only [List.head?_cons, ne_eq, Option.some.injEq, Nat.digitChar_eq_zero]
      omega
    · have front := ih (n / 10) (by omega) (by omega)
      obtain ⟨first, rest, digits⟩ :=
        List.exists_cons_of_ne_nil (Nat.toDigits_ne_nil (n := n / 10) (b := 10))
      rw [Nat.toDigits_of_base_le (by omega) (by omega), digits]
      rwa [digits] at front

/-! ## Numerals -/

namespace Decimal

/-- The digits of a natural number are read back. -/
theorem scan?_toDigits (n : Nat) : scan? (Nat.toDigits 10 n) = some (⟨n, 0⟩, []) := by
  have some : Nat.toDigits 10 n ≠ [] := Nat.toDigits_ne_nil
  simp [scan?, takeWhile_toDigits, dropWhile_toDigits, some, scanExponent, ofDigits,
    Nat.ofDigitChars_ten_toDigits]

/-- A natural number below the bound is the double nearest to it. -/
theorem toNumber_of_lt {n : Nat} (small : n < Number.exactBound) (negative : Bool) :
    (Decimal.mk n 0).toNumber negative =
      if n = 0 then Number.signedZero negative
      else .integer ((if negative then -1 else 1) * n) := by
  have short : (Nat.toDigits 10 n).length ≤ 16 :=
    (Nat.length_toDigits_le_iff (by omega) (by omega)).2 (Nat.lt_trans small (by decide))
  have low : ¬ exponentBound < 0 + ((Nat.toDigits 10 n).length : Int) := by
    unfold exponentBound; omega
  have high : ¬ 0 + ((Nat.toDigits 10 n).length : Int) < -exponentBound := by
    unfold exponentBound; omega
  by_cases zero : n = 0
  · simp [toNumber, zero]
  · simp only [toNumber, zero, low, high, if_false]
    simp [Number.ofQuotient, zero, small, Nat.mod_one]

end Decimal

/-! ## Whole texts -/

theorem not_isBlank_of_isDigit {c : Char} (h : c.isDigit = true) : Text.isBlank c = false := by
  have range : 48 ≤ c.toNat ∧ c.toNat ≤ 57 := Char.isDigit_iff_toNat.1 h
  simp [Text.isBlank]
  omega

/-- A text without blanks at its ends stays as it is. -/
theorem Text.trim_of_forall {cs : List Char} (h : ∀ c ∈ cs, isBlank c = false) : trim cs = cs := by
  have start : ∀ {cs : List Char}, (∀ c ∈ cs, isBlank c = false) → cs.dropWhile isBlank = cs :=
    fun clear => List.dropWhile_eq_self_iff.2 fun some => by
      simpa using clear _ (List.getElem_mem some)
  rw [trim, trimStart, start h, trimEnd, start fun c mem => h c (List.mem_reverse.1 mem),
    List.reverse_reverse]

namespace Number

theorem markedBase?_of_isDigit {c : Char} (h : c.isDigit = true) : markedBase? c = none := by
  have clear : ∀ mark : Char, mark.isDigit = false → c ≠ mark := by
    rintro mark plain rfl
    rw [plain] at h
    cases h
  simp [markedBase?, clear 'x' rfl, clear 'X' rfl, clear 'o' rfl, clear 'O' rfl, clear 'b' rfl,
    clear 'B' rfl]

/-- No mark stands behind a zero at the start of digits. -/
theorem ofMarked?_of_forall_isDigit {digits : List Char}
    (all : ∀ c ∈ digits, c.isDigit = true) : ofMarked? digits = none := by
  unfold ofMarked?
  split
  · next mark rest =>
    rw [markedBase?_of_isDigit (all mark (by simp)), Option.map_none]
  · rfl

theorem scanSign_of_isDigit {c : Char} (h : c.isDigit = true) (rest : List Char) :
    scanSign (c :: rest) = (false, c :: rest) := by
  unfold scanSign
  split
  · next chars =>
    cases chars
    cases h
  · next chars =>
    cases chars
    cases h
  · rfl

/-- A text of digits is read as the number that they make, whatever zeros stand at its start. -/
theorem ofText_of_forall_isDigit {digits : List Char} (some : digits ≠ [])
    (all : ∀ c ∈ digits, c.isDigit = true)
    (small : Nat.ofDigitChars 10 digits 0 < exactBound) :
    ofText (String.ofList digits) = .integer (Nat.ofDigitChars 10 digits 0) := by
  obtain ⟨first, rest, rfl⟩ := List.exists_cons_of_ne_nil some
  have digit : first.isDigit = true := all first List.mem_cons_self
  have whole : (first :: rest).takeWhile Char.isDigit = first :: rest :=
    List.takeWhile_eq_self_iff.2 all
  have none : (first :: rest).dropWhile Char.isDigit = [] := List.dropWhile_eq_nil_iff.2 all
  have scanned : Decimal.scan? (first :: rest) =
      .some (⟨Nat.ofDigitChars 10 (first :: rest) 0, 0⟩, []) := by
    simp only [Decimal.scan?, whole, none, List.isEmpty_cons, Bool.false_and, Decimal.scanExponent,
      Decimal.ofDigits, List.append_nil, List.length_nil]
    rfl
  have trimmed : Text.trim (first :: rest) = first :: rest :=
    Text.trim_of_forall fun c mem => not_isBlank_of_isDigit (all c mem)
  have word : first :: rest ≠ infinityWord := by
    rintro chars
    cases chars
    cases digit
  rw [ofText, String.toList_ofList, trimmed]
  dsimp only
  rw [ofMarked?_of_forall_isDigit all, Option.getD_none, ofSigned, scanSign_of_isDigit digit]
  dsimp only
  rw [if_neg word, scanned]
  dsimp only
  rw [Decimal.toNumber_of_lt small]
  split
  · next zero =>
    rw [zero]
    rfl
  · simp

end Number

end KeyClient
