import KeyClient.Proofs.Text.Utf8
import KeyClient.Url.Percent

/-!
# Percent encoding is read back

`decode_encodeChar_append` says that the octets of an encoded character are read back, and
`forall_mem_encode` which characters stand in an encoded text: the percent sign, digits, and the
characters that the set leaves alone.
-/

namespace KeyClient.Url

/-- What holds of the characters of all numbers below a bound holds of every character below it. -/
theorem of_toNat_lt {P : Char → Prop} {bound : Nat} (h : ∀ n < bound, P (Char.ofNat n)) {c : Char}
    (low : c.toNat < bound) : P c := by
  have own := h c.toNat low
  rwa [Char.ofNat_toNat] at own

namespace Percent

/-! ## Reading octets -/

theorem digitValue?_digit : ∀ n < 16, digitValue? (digit n) = some n := by decide

theorem octet?_digit (octet : UInt8) :
    octet? (digit (octet.toNat / 16)) (digit (octet.toNat % 16)) = some octet := by
  have bound : octet.toNat < 256 := octet.toNat_lt
  have whole : 16 * (octet.toNat / 16) + octet.toNat % 16 = octet.toNat := by omega
  rw [octet?, digitValue?_digit _ (by omega), digitValue?_digit _ (by omega)]
  simp only [whole, UInt8.ofNat_toNat]

theorem decode_encodeOctet_append (octet : UInt8) (cs : List Char) :
    decode (encodeOctet octet ++ cs) = octet :: decode cs := by
  rw [encodeOctet, List.cons_append, List.cons_append, List.cons_append, List.nil_append, decode,
    octet?_digit]

theorem decode_flatMap_encodeOctet_append (octets : List UInt8) (cs : List Char) :
    decode (octets.flatMap encodeOctet ++ cs) = octets ++ decode cs := by
  induction octets with
  | nil => rfl
  | cons octet octets ih =>
    rw [List.flatMap_cons, List.append_assoc, decode_encodeOctet_append, ih, List.cons_append]

/-- The octets of an encoded character are read back. -/
theorem decode_encodeChar_append (c : Char) (cs : List Char) :
    decode (encodeChar c ++ cs) = Text.Utf8.encodeChar c ++ decode cs :=
  decode_flatMap_encodeOctet_append _ _

theorem decode_cons_of_ne {c : Char} (h : c ≠ '%') (cs : List Char) :
    decode (c :: cs) = Text.Utf8.encodeChar c ++ decode cs := by
  rw [decode]
  rintro high low rest rfl -
  exact h rfl

/-- A character that is not part of an encoded octet is kept. -/
theorem mem_decode {c : Char} (ascii : c.toNat < 0x80) (noMark : c ≠ '%')
    (noDigit : digitValue? c = none) {cs : List Char} (h : c ∈ cs) :
    UInt8.ofNat c.toNat ∈ decode cs := by
  have own : Text.Utf8.encodeChar c = [UInt8.ofNat c.toNat] := by
    unfold Text.Utf8.encodeChar
    exact if_pos ascii
  -- an octet swallows two digits behind a percent sign, and the character is none of the three
  fun_induction decode cs with
  | case1 high low cs octet read ih =>
    have digits : c ≠ high ∧ c ≠ low := by
      constructor <;> rintro rfl <;> simp [octet?, noDigit] at read
    simp only [List.mem_cons, noMark, digits.1, digits.2, false_or] at h
    exact List.mem_cons_of_mem _ (ih h)
  | case2 high low cs unread ih =>
    exact List.mem_append_right _ (ih ((List.mem_cons.1 h).resolve_left noMark))
  | case3 d cs _ ih =>
    rcases List.mem_cons.1 h with rfl | later
    · rw [own]
      exact List.mem_append_left _ (List.mem_singleton_self _)
    · exact List.mem_append_right _ (ih later)
  | case4 => cases h

/-! ## The characters of an encoded text -/

section

variable {p : Char → Prop}

/-- An encoded character is written with percent signs and digits. -/
theorem forall_mem_encodeChar (mark : p '%') (digits : ∀ n < 16, p (digit n)) (c : Char) :
    ∀ d ∈ encodeChar c, p d := by
  intro d member
  obtain ⟨octet, -, member⟩ := List.mem_flatMap.1 member
  have bound : octet.toNat < 256 := octet.toNat_lt
  rcases List.mem_cons.1 member with rfl | member
  · exact mark
  rcases List.mem_cons.1 member with rfl | member
  · exact digits _ (by omega)
  · rw [List.mem_singleton.1 member]
    exact digits _ (by omega)

/-- An encoded text is written with percent signs, digits and what the set leaves alone. -/
theorem forall_mem_encode (mark : p '%') (digits : ∀ n < 16, p (digit n)) {set : EncodeSet}
    {cs : List Char} (alone : ∀ c ∈ cs, set c = false → p c) : ∀ d ∈ encode set cs, p d := by
  intro d member
  obtain ⟨c, inside, member⟩ := List.mem_flatMap.1 member
  split at member
  · exact forall_mem_encodeChar mark digits c d member
  · next unset =>
    rw [List.mem_singleton.1 member]
    exact alone c inside (by simpa using unset)

end

theorem encode_append (set : EncodeSet) (cs more : List Char) :
    encode set (cs ++ more) = encode set cs ++ encode set more := List.flatMap_append

/-- A character of the set leaves a percent sign. -/
theorem mark_mem_encode {set : EncodeSet} {cs : List Char} {c : Char} (member : c ∈ cs)
    (inSet : set c = true) : '%' ∈ encode set cs := by
  have some : ∃ octet, octet ∈ Text.Utf8.encodeChar c := by
    unfold Text.Utf8.encodeChar
    simp only
    split
    · exact ⟨_, List.mem_cons_self ..⟩
    · split
      · exact ⟨_, List.mem_cons_self ..⟩
      · split <;> exact ⟨_, List.mem_cons_self ..⟩
  obtain ⟨octet, inside⟩ := some
  refine List.mem_flatMap.2 ⟨c, member, ?_⟩
  rw [if_pos inSet]
  exact List.mem_flatMap.2 ⟨octet, inside, List.mem_cons_self ..⟩

/-- A text without characters of the set is its own encoding. -/
theorem encode_eq_self {set : EncodeSet} {cs : List Char} (h : ∀ c ∈ cs, set c = false) :
    encode set cs = cs := by
  induction cs with
  | nil => rfl
  | cons c cs ih =>
    rw [encode, List.flatMap_cons, h c (by simp), ← encode, ih fun d inside => h d (by simp [inside])]
    rfl

end Percent

end KeyClient.Url
