import KeyClient.Proofs.Json.RoundTrip

/-!
# Values as JSON expresses them

`Value.plain` is a value as JSON expresses it, with all members where they stood.  It has the text
of the value itself (`Json.chars_plain`), and is what is read back of a value whose members stand in
the order of their enumeration (`Value.normal_eq_plain`).
-/

namespace KeyClient

namespace Value

mutual

/-- The value without what JSON cannot express: a missing or infinite value is `null`, and the zero
has no sign. -/
def plain : Value → Value
  | .undefined | .null | .number .nan | .number (.infinity _) => .null
  | .number .negativeZero => .number (.integer 0)
  | .number n => .number n
  | .bool b => .bool b
  | .string s => .string s
  | .array items => .array (plainItems items)
  | .object members => .object (plainMembers members)

/-- The items without what JSON cannot express. -/
def plainItems : List Value → List Value
  | [] => []
  | item :: rest => plain item :: plainItems rest

/-- The members that are not undefined, in their order, without what JSON cannot express. -/
def plainMembers : Members → Members
  | [] => []
  | (_, .undefined) :: rest => plainMembers rest
  | (key, value) :: rest => (key, plain value) :: plainMembers rest

end

mutual

/-- Every object in the value has each key once, in the order of enumeration. -/
def IsOrdered : Value → Prop
  | .array items => AreAllOrdered items
  | .object members => Members.AreOrdered (members.map Prod.fst) ∧ HasOrdered members
  | _ => True

/-- Every object in the items has each key once, in the order of enumeration. -/
def AreAllOrdered : List Value → Prop
  | [] => True
  | item :: rest => IsOrdered item ∧ AreAllOrdered rest

/-- Every object in the members has each key once, in the order of enumeration. -/
def HasOrdered : Members → Prop
  | [] => True
  | (_, value) :: rest => IsOrdered value ∧ HasOrdered rest

end

/-! ## Members -/

theorem plainMembers_cons {key : String} {v : Value} (present : v ≠ .undefined) (rest : Members) :
    plainMembers ((key, v) :: rest) = (key, plain v) :: plainMembers rest := by
  rw [plainMembers]
  exact present

theorem normalMembers_cons {key : String} {v : Value} (present : v ≠ .undefined) (rest : Members) :
    normalMembers ((key, v) :: rest) = (key, normal v) :: normalMembers rest := by
  rw [normalMembers]
  exact present

/-- Of the keys of an object some are left, in their order. -/
theorem keys_plainMembers_sublist (members : Members) :
    ((plainMembers members).map Prod.fst).Sublist (members.map Prod.fst) := by
  induction members with
  | nil => exact List.Sublist.refl _
  | cons member rest ih =>
    obtain ⟨key, v⟩ := member
    by_cases missing : v = .undefined
    · subst missing
      exact ih.cons key
    · rw [plainMembers_cons missing]
      exact ih.cons_cons key

theorem plain_ne_undefined (v : Value) : plain v ≠ .undefined := by
  unfold plain
  split <;> nofun

theorem ofFinite_eq_plain (n : Number) : ofFinite n = plain (.number n) := by
  cases n <;> rfl

/-! ## What is read back -/

-- The cases follow the values; only objects are more than congruence.
mutual

/-- A value whose members stand in their order is read back with all of them in their places. -/
theorem normal_eq_plain : ∀ v : Value, v.IsOrdered → v.normal = v.plain
  | .undefined, _ => rfl
  | .null, _ => rfl
  | .bool _, _ => rfl
  | .number n, _ => ofFinite_eq_plain n
  | .string _, _ => rfl
  | .array items, ordered => congrArg Value.array (normalItems_eq_plainItems items ordered)
  | .object members, ⟨keys, ordered⟩ => by
    have same := normalMembers_eq_plainMembers members ordered
    have stands := keys.sublist (keys_plainMembers_sublist members)
    rw [normal, plain, same, Members.ofEntries_of_areOrdered stands]

theorem normalItems_eq_plainItems : ∀ items : List Value, AreAllOrdered items →
    normalItems items = plainItems items
  | [], _ => rfl
  | item :: rest, ⟨first, others⟩ => by
    rw [normalItems, plainItems, normal_eq_plain item first, normalItems_eq_plainItems rest others]

theorem normalMembers_eq_plainMembers : ∀ members : Members, HasOrdered members →
    normalMembers members = plainMembers members
  | [], _ => rfl
  | (key, v) :: rest, ⟨first, others⟩ => by
    have tail := normalMembers_eq_plainMembers rest others
    by_cases missing : v = .undefined
    · subst missing
      exact tail
    · rw [normalMembers_cons missing, plainMembers_cons missing, normal_eq_plain v first, tail]

end

end Value

namespace Json

open Value

/-! ## What is written -/

theorem memberChars_cons {indent : Indent} {level : Nat} {key : String} {v : Value}
    (present : v ≠ .undefined) (rest : Members) :
    memberChars indent level ((key, v) :: rest) =
      (quote key ++ colon indent ++ chars indent level v) :: memberChars indent level rest := by
  rw [memberChars]
  exact present

theorem chars_number_plain (indent : Indent) (level : Nat) (n : Number) :
    chars indent level (plain (.number n)) = chars indent level (.number n) := by
  cases n <;> rfl

-- What `plain` replaces is written as what it is replaced by.
mutual

/-- A value is written as it is expressed. -/
theorem chars_plain (indent : Indent) :
    ∀ (v : Value) (level : Nat), chars indent level v.plain = chars indent level v
  | .undefined, _ => rfl
  | .null, _ => rfl
  | .bool _, _ => rfl
  | .number n, level => chars_number_plain indent level n
  | .string _, _ => rfl
  | .array items, level => by rw [plain, chars, chars, itemChars_plainItems indent items]
  | .object members, level => by rw [plain, chars, chars, memberChars_plainMembers indent members]

theorem itemChars_plainItems (indent : Indent) :
    ∀ (items : List Value) (level : Nat),
      itemChars indent level (plainItems items) = itemChars indent level items
  | [], _ => rfl
  | item :: rest, level => by
    rw [plainItems, itemChars, itemChars, chars_plain indent item,
      itemChars_plainItems indent rest]

theorem memberChars_plainMembers (indent : Indent) :
    ∀ (members : Members) (level : Nat),
      memberChars indent level (plainMembers members) = memberChars indent level members
  | [], _ => rfl
  | (key, v) :: rest, level => by
    have tail := memberChars_plainMembers indent rest level
    by_cases missing : v = .undefined
    · subst missing
      exact tail
    · rw [plainMembers_cons missing, memberChars_cons (plain_ne_undefined v),
        memberChars_cons missing, chars_plain indent v, tail]

end

theorem write_eq_chars {v : Value} (present : v ≠ .undefined) (indent : Indent) :
    write indent v = String.ofList (chars indent 0 v) := by
  unfold write
  split
  · exact absurd rfl present
  · rfl

/-- A value and what JSON expresses of it have the same text. -/
theorem pretty_plain {v : Value} (present : v ≠ .undefined) : pretty v.plain = pretty v := by
  rw [pretty, write_eq_chars (plain_ne_undefined v), chars_plain, pretty, write_eq_chars present]

end Json

end KeyClient
