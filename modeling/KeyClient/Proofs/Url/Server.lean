import KeyClient.Proofs.Domain.Kept
import KeyClient.Proofs.Url.Percent
import KeyClient.Url.Basic

/-!
# Servers with a blank behind them

The blanks around an address are dropped, but not those behind its server once a path follows.
With one of the special schemes, no server has a blank at its end (`authority?_append_edges`): no
domain name contains one, and no port does.
-/

namespace KeyClient.Url

/-- What holds of all the characters up to the space holds of every edge. -/
theorem of_isEdge {P : Char → Prop} (h : ∀ n < 0x21, P (Char.ofNat n)) {c : Char}
    (edge : isEdge c = true) : P c :=
  of_toNat_lt h (Nat.lt_succ_of_le (of_decide_eq_true edge))

/-- Blanks that are not dropped inside an address, at least one of them. -/
structure Edges (cs : List Char) : Prop where
  nonempty : cs ≠ []
  edge : ∀ c ∈ cs, isEdge c = true

/-! ## Hosts -/

namespace Host

theorem ofDomain?_eq_none {name : List Char} {c : Char} (edge : isEdge c = true)
    (member : c ∈ name) : ofDomain? name = none := by
  have low : c.toNat ≤ 0x20 := of_decide_eq_true edge
  have ascii : c.toNat < 0x80 := by omega
  have noMark : c ≠ '%' := of_isEdge (P := fun c => c ≠ '%') (by decide) edge
  have noDot : c ≠ '.' := of_isEdge (P := fun c => c ≠ '.') (by decide) edge
  have noDigit : Percent.digitValue? c = none :=
    of_isEdge (P := fun c => Percent.digitValue? c = none) (by decide) edge
  have forbidden : isForbiddenInDomain c = true :=
    of_isEdge (P := fun c => isForbiddenInDomain c = true) (by decide) edge
  have octet : (UInt8.ofNat c.toNat).toNat = c.toNat :=
    UInt8.toNat_ofNat_of_lt' (by simp [UInt8.size]; omega)
  have read : c ∈ Text.Utf8.decode (Percent.decode name) := by
    have kept := Text.Utf8.mem_decode (by omega) (Percent.mem_decode ascii noMark noDigit member)
    rwa [octet, Char.ofNat_toNat] at kept
  unfold ofDomain?
  cases found : Domain.toAscii? (Text.Utf8.decode (Percent.decode name)) with
  | none => rfl
  | some encoded =>
    -- the blank is still there when the forbidden characters are looked for
    have inside : c ∈ encoded :=
      Domain.mem_of_toAscii? (Nat.lt_of_le_of_lt low (by decide)) noDot found read
    rw [Option.bind_eq_bind, Option.bind_some, if_pos]
    rw [Bool.or_eq_true, List.any_eq_true]
    exact .inr ⟨c, inside, forbidden⟩

/-- No name with a blank at its end is a host. -/
theorem parse?_append_edges (cs : List Char) {blanks : List Char} (edges : Edges blanks) :
    parse? true (cs ++ blanks) = none := by
  have edge : isEdge (blanks.getLast edges.nonempty) = true := edges.edge _ (List.getLast_mem _)
  have last : (cs ++ blanks).getLast? = some (blanks.getLast edges.nonempty) := by
    rw [List.getLast?_append, List.getLast?_eq_some_getLast edges.nonempty, Option.some_or]
  unfold parse?
  split
  · rw [last, if_neg]
    rw [beq_iff_eq, Option.some.injEq]
    exact of_isEdge (P := fun c => c ≠ ']') (by decide) edge
  · rw [if_pos rfl]
    exact ofDomain?_eq_none edge (List.mem_append_right _ (List.getLast_mem _))

end Host

/-! ## Ports -/

theorem port?_append_edges (scheme cs : List Char) {blanks : List Char} (edges : Edges blanks) :
    port? scheme (cs ++ blanks) = none := by
  have notDigits : (cs ++ blanks).all Char.isDigit = false := by
    rw [List.all_append, Bool.and_eq_false_iff]
    refine .inr (List.all_eq_false.2 ⟨_, List.getLast_mem edges.nonempty, ?_⟩)
    exact of_isEdge (P := fun c => ¬ c.isDigit = true) (by decide)
      (edges.edge _ (List.getLast_mem _))
  rw [port?, if_neg (by simp [edges.nonempty]), notDigits]
  rfl

theorem cutPort_append {more : List Char} (noColon : ':' ∉ more) (inBrackets : Bool)
    (cs : List Char) :
    (cutPort inBrackets cs).2 = none ∧ cutPort inBrackets (cs ++ more) =
        ((cutPort inBrackets cs).1 ++ more, none) ∨
      ∃ port, (cutPort inBrackets cs).2 = some port ∧ cutPort inBrackets (cs ++ more) =
        ((cutPort inBrackets cs).1, some (port ++ more)) := by
  induction cs generalizing inBrackets with
  | nil =>
    refine .inl ⟨rfl, ?_⟩
    show cutPort inBrackets more = (more, none)
    induction more generalizing inBrackets with
    | nil => rfl
    | cons c more ih =>
      have other : c ≠ ':' := by
        rintro rfl
        exact noColon (by simp)
      have rest : ':' ∉ more := fun inside => noColon (List.mem_cons_of_mem _ inside)
      rw [cutPort, if_neg (by simp [other])]
      simp only [ih rest]
  | cons c cs ih =>
    rw [List.cons_append, cutPort, cutPort]
    split
    · exact .inr ⟨cs, rfl, rfl⟩
    · rcases ih (if c = '[' then true else if c = ']' then false else inBrackets) with
        ⟨none, whole⟩ | ⟨port, found, cuts⟩
      · exact .inl ⟨by simp only [none], by simp only [whole, List.cons_append]⟩
      · exact .inr ⟨port, by simp only [found], by simp only [cuts]⟩

/-! ## Servers -/

theorem cutUser?_append {more : List Char} (noAt : '@' ∉ more) (cs : List Char) :
    cutUser? (cs ++ more) =
      (cutUser? cs).map fun (name, password, rest) => (name, password, rest ++ more) := by
  have clear : ∀ c ∈ more.reverse, (c == '@') = false := by
    intro c member
    rw [beq_eq_false_iff_ne]
    rintro rfl
    exact noAt (List.mem_reverse.1 member)
  unfold cutUser?
  rw [List.reverse_append]
  rcases Text.cut_cases (· == '@') cs.reverse with ⟨none, whole⟩ | ⟨before, c, after, parts, isAt,
    none, cuts⟩
  · have all : ∀ c ∈ more.reverse ++ cs.reverse, (c == '@') = false :=
      List.forall_mem_append.2 ⟨clear, none⟩
    rw [whole, Text.cut_eq_self all]
    rfl
  · have all : ∀ c ∈ more.reverse ++ before, (c == '@') = false :=
      List.forall_mem_append.2 ⟨clear, none⟩
    rw [cuts, parts, ← List.append_assoc, Text.cut_append_cons all isAt]
    simp only [List.reverse_append, List.reverse_reverse, Option.map_some]

/-- With one of the special schemes, no server has a blank at its end. -/
theorem authority?_append_edges {scheme : List Char} (special : isSpecial scheme = true)
    (cs : List Char) {blanks : List Char} (edges : Edges blanks) :
    authority? scheme (cs ++ blanks) = none := by
  have noAt : '@' ∉ blanks := fun member => absurd (edges.edge _ member) (by decide)
  have noColon : ':' ∉ blanks := fun member => absurd (edges.edge _ member) (by decide)
  have rest : ∃ name password rest, (cutUser? (cs ++ blanks)).getD ([], [], cs ++ blanks) =
      (name, password, rest ++ blanks) := by
    rw [cutUser?_append noAt]
    cases cutUser? cs with
    | none => exact ⟨[], [], cs, rfl⟩
    | some parts => exact ⟨parts.1, parts.2.1, parts.2.2, rfl⟩
  obtain ⟨name, password, rest, cuts⟩ := rest
  unfold authority?
  simp only [cuts]
  split
  · rfl
  · -- the blanks end up in the host or, if there is a port, behind it
    rcases cutPort_append noColon false rest with ⟨-, whole⟩ | ⟨port, -, parts⟩
    · rw [whole, special, Host.parse?_append_edges _ edges]
      rfl
    · rw [parts]
      simp only [Option.getD_some, port?_append_edges scheme port edges]
      cases Host.parse? (isSpecial scheme) (cutPort false rest).1 <;> rfl

end KeyClient.Url
