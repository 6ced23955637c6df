import KeyClient.Domain.Basic
import KeyClient.Proofs.Text.Normal
import KeyClient.Proofs.Text.Split

/-!
# Low characters are kept in a domain name

A character below the letters and other than a full stop is neither mapped nor composed nor
encoded: if a domain name has an ASCII form, the character stands in it (`mem_of_toAscii?`).
-/

namespace KeyClient.Domain

theorem toLower_of_lt {c : Char} (h : c.toNat < 65) : c.toLower = c := by
  unfold Char.toLower
  rw [dif_neg]
  rintro ⟨least, -⟩
  exact absurd h (Nat.not_lt_of_le least)

/-- What becomes of a member of a list that is mapped without failure. -/
theorem mem_of_mapM {α β : Type} {f : α → Option β} {as : List α} {bs : List β} {a : α}
    (h : as.mapM f = some bs) (member : a ∈ as) : ∃ b ∈ bs, f a = some b := by
  induction as generalizing bs with
  | nil => cases member
  | cons first as ih =>
    rw [List.mapM_cons] at h
    obtain ⟨b, found, h⟩ := Option.bind_eq_some_iff.1 h
    obtain ⟨rest, mapped, h⟩ := Option.bind_eq_some_iff.1 h
    cases h
    rcases List.mem_cons.1 member with rfl | later
    · exact ⟨b, List.mem_cons_self .., found⟩
    · obtain ⟨c, inside, found⟩ := ih mapped later
      exact ⟨c, List.mem_cons_of_mem _ inside, found⟩

section

variable {c : Char}

theorem mem_of_mapAll? (low : c.toNat < 65) {name mapped : List Char}
    (h : mapAll? name = some mapped) (member : c ∈ name) : c ∈ mapped := by
  obtain ⟨parts, all, rfl⟩ := Option.map_eq_some_iff.1 h
  obtain ⟨part, inside, own⟩ := mem_of_mapM all member
  have self : map? c = some [c] := by
    rw [map?, if_pos (Nat.lt_trans low (by decide)), toLower_of_lt low]
  rw [self] at own
  cases own
  exact List.mem_flatten.2 ⟨[c], inside, List.mem_singleton_self c⟩

/-- The ASCII characters of a label stand in front of its numbers. -/
theorem mem_encode (ascii : c.toNat < Punycode.firstCode) {label : List Char} (member : c ∈ label) :
    c ∈ Punycode.encode label := by
  have kept : c ∈ label.filter fun d => d.toNat < Punycode.firstCode :=
    List.mem_filter.2 ⟨member, decide_eq_true ascii⟩
  rw [Punycode.encode]
  refine List.mem_append_left _ ?_
  rw [if_neg (by rw [List.isEmpty_iff]; exact List.ne_nil_of_mem kept)]
  exact List.mem_append_left _ kept

theorem mem_of_labelToAscii? (ascii : c.toNat < Punycode.firstCode) {label encoded : List Char}
    (h : labelToAscii? label = some encoded) (member : c ∈ label) : c ∈ encoded := by
  unfold labelToAscii? at h
  split at h
  · split at h
    · cases h
      exact member
    · cases h
  · split at h
    · cases h
      exact member
    · split at h
      · cases h
        exact List.mem_append_right _ (mem_encode ascii member)
      · cases h

theorem mem_of_labelsToAscii? (ascii : c.toNat < Punycode.firstCode) (noDot : c ≠ '.')
    {name encoded : List Char} (h : labelsToAscii? name = some encoded) (member : c ∈ name) :
    c ∈ encoded := by
  obtain ⟨labels, all, rfl⟩ := Option.map_eq_some_iff.1 h
  obtain ⟨label, inside, member⟩ := Text.mem_split_of_mem (p := (· == '.')) member (by simpa using noDot)
  obtain ⟨part, among, own⟩ := mem_of_mapM all inside
  exact Text.mem_join_of_mem among (mem_of_labelToAscii? ascii own member)

/-- A low character stands in the ASCII form of a domain name if it stands in the name. -/
theorem mem_of_toAscii? (low : c.toNat < Text.Normal.firstBase) (noDot : c ≠ '.')
    {name encoded : List Char} (h : toAscii? name = some encoded) (member : c ∈ name) :
    c ∈ encoded := by
  -- the bound lies below the letters and below the first composed character
  have unmapped : c.toNat < 65 := Nat.lt_trans low (by decide)
  have ascii : c.toNat < Punycode.firstCode := Nat.lt_trans low (by decide)
  unfold toAscii? at h
  split at h
  · refine mem_of_labelsToAscii? ascii noDot h ?_
    exact List.mem_map.2 ⟨c, member, toLower_of_lt unmapped⟩
  · obtain ⟨mapped, all, h⟩ := Option.bind_eq_some_iff.1 h
    refine mem_of_labelsToAscii? ascii noDot h (Text.Normal.mem_normalize low ?_)
    exact mem_of_mapAll? unmapped all member

end

end KeyClient.Domain
