import KeyClient.Value.Basic
import Mathlib.Tactic.SplitIfs

/-!
# Members of objects

Setting members one after another leaves each key once, in the order in which keys are enumerated
(`Members.areOrdered_ofEntries`), with the value that was set last (`Members.get?_ofEntries`).
Members that stand in that order are set as they stand (`Members.ofEntries_of_areOrdered`).
-/

namespace KeyClient.Members

/-! ## One member -/

/-- Other members are found as before. -/
theorem get?_insert_of_ne {key other : String} (ne : other ≠ key) (value : Value)
    (members : Members) : (members.insert key value).get? other = members.get? other := by
  have apart : (other == key) = false := by simpa using ne
  induction members with
  | nil => simp [insert, get?, List.lookup_cons, apart]
  | cons member rest ih =>
    obtain ⟨k, v⟩ := member
    simp only [get?] at ih ⊢
    unfold insert
    split_ifs with same first
    · subst same
      simp [List.lookup_cons, apart]
    · simp [List.lookup_cons, apart]
    · simp only [List.lookup_cons, ih]

/-- Setting a member adds its key to those that are there. -/
theorem mem_keys_insert {key other : String} {value : Value} {members : Members} :
    other ∈ (members.insert key value).map Prod.fst ↔
      other = key ∨ other ∈ members.map Prod.fst := by
  induction members with
  | nil => simp [insert]
  | cons member rest ih =>
    obtain ⟨k, v⟩ := member
    unfold insert
    split_ifs with same first
    · subst same
      simp
    · simp
    · rw [List.map_cons, List.mem_cons, ih, List.map_cons, List.mem_cons]
      exact or_left_comm

/-! ## Members in their order -/

/-- A new member that is enumerated before none of the others goes behind them. -/
theorem insert_eq_append {key : String} {value : Value} {members : Members}
    (behind : ∀ member ∈ members, member.1 ≠ key ∧ precedes key member.1 = false) :
    members.insert key value = members ++ [(key, value)] := by
  induction members with
  | nil => rfl
  | cons member rest ih =>
    obtain ⟨differs, later⟩ := behind member List.mem_cons_self
    rw [insert, if_neg differs, if_neg (by simp [later]),
      ih fun other mem => behind other (List.mem_cons_of_mem _ mem)]
    rfl

/-- The keys differ and stand in the order in which they are enumerated. -/
def AreOrdered (keys : List String) : Prop :=
  keys.Pairwise fun key later => key ≠ later ∧ precedes later key = false

instance (keys : List String) : Decidable (AreOrdered keys) :=
  inferInstanceAs (Decidable (keys.Pairwise _))

theorem AreOrdered.nodup {keys : List String} (h : AreOrdered keys) : keys.Nodup :=
  h.imp And.left

theorem AreOrdered.sublist {keys fewer : List String} (h : AreOrdered keys)
    (part : fewer.Sublist keys) : AreOrdered fewer :=
  List.Pairwise.sublist part h

theorem precedes_trans {a b c : String} (h : precedes a b = true) (h' : precedes b c = true) :
    precedes a c = true := by
  unfold precedes at *
  cases ha : index? a <;> cases hb : index? b <;> cases hc : index? c <;> simp_all
  omega

theorem precedes_asymm {a b : String} (h : precedes a b = true) : precedes b a = false := by
  unfold precedes at *
  cases ha : index? a <;> cases hb : index? b <;> simp_all
  omega

/-- A member goes to its place among members in their order. -/
theorem AreOrdered.insert {members : Members} (h : AreOrdered (members.map Prod.fst))
    (key : String) (value : Value) :
    AreOrdered ((members.insert key value).map Prod.fst) := by
  induction members with
  | nil => exact List.pairwise_singleton _ _
  | cons member rest ih =>
    obtain ⟨k, v⟩ := member
    obtain ⟨front, tail⟩ := List.pairwise_cons.1 h
    unfold Members.insert
    split_ifs with same first
    · subst same
      exact h
    · -- What comes before `k` comes before all that follows `k`.
      refine List.pairwise_cons.2 ⟨fun other mem => ?_, h⟩
      rcases List.mem_cons.1 mem with rfl | mem
      · exact ⟨fun same' => same same'.symm, precedes_asymm first⟩
      · obtain ⟨-, behind⟩ := front other mem
        refine ⟨?_, ?_⟩
        · rintro rfl
          rw [first] at behind
          cases behind
        · cases before : precedes other key with
          | false => rfl
          | true =>
            rw [precedes_trans before first] at behind
            cases behind
    · refine List.pairwise_cons.2 ⟨fun other mem => ?_, ih tail⟩
      rcases mem_keys_insert.1 mem with rfl | mem
      · exact ⟨same, by simpa using first⟩
      · exact front other mem

theorem foldl_insert_of_areOrdered (before : Members) {members : Members}
    (h : AreOrdered ((before ++ members).map Prod.fst)) :
    members.foldl (fun members entry => members.insert entry.1 entry.2) before =
      before ++ members := by
  induction members generalizing before with
  | nil => simp
  | cons member rest ih =>
    have behind : ∀ earlier ∈ before,
        earlier.1 ≠ member.1 ∧ precedes member.1 earlier.1 = false := by
      intro earlier mem
      rw [List.map_append, AreOrdered, List.pairwise_append] at h
      exact h.2.2 _ (List.mem_map_of_mem mem) _ List.mem_cons_self
    have moved : before ++ member :: rest = before ++ [member] ++ rest := by simp
    rw [moved] at h ⊢
    rw [List.foldl_cons, insert_eq_append behind, ih (before ++ [member]) h]

/-- Members in their order are set as they stand. -/
theorem ofEntries_of_areOrdered {members : Members} (h : AreOrdered (members.map Prod.fst)) :
    ofEntries members = members := by
  have set := foldl_insert_of_areOrdered [] h
  rwa [List.nil_append] at set

/-! ## All members -/

theorem areOrdered_foldl_insert (entries : List (String × Value)) {before : Members}
    (h : AreOrdered (before.map Prod.fst)) :
    AreOrdered ((entries.foldl (fun members entry => members.insert entry.1 entry.2)
      before).map Prod.fst) := by
  induction entries generalizing before with
  | nil => exact h
  | cons entry rest ih => exact ih (h.insert entry.1 entry.2)

/-- Whatever is set, members stand in their order. -/
theorem areOrdered_ofEntries (entries : List (String × Value)) :
    AreOrdered ((ofEntries entries).map Prod.fst) :=
  areOrdered_foldl_insert entries List.Pairwise.nil

theorem get?_foldl_insert (entries : List (String × Value)) (before : Members) (key : String) :
    (entries.foldl (fun members entry => members.insert entry.1 entry.2) before).get? key =
      ((entries.filter fun entry => entry.1 == key).getLast?.map Prod.snd).or
        (before.get? key) := by
  induction entries generalizing before with
  | nil => simp
  | cons entry rest ih =>
    obtain ⟨k, v⟩ := entry
    rw [List.foldl_cons, ih]
    by_cases same : k = key
    · -- The entry counts if no later one has its key.
      subst same
      have here : ((k, v).1 == k) = true := beq_self_eq_true k
      rw [get?_insert_self, List.filter_cons, if_pos here, List.getLast?_cons]
      cases (rest.filter fun entry => entry.1 == k).getLast? <;> rfl
    · rw [get?_insert_of_ne (Ne.symm same), List.filter_cons, if_neg (by simpa using same)]

/-- Of the values that are set for a key the last one is found. -/
theorem get?_ofEntries (entries : List (String × Value)) (key : String) :
    (ofEntries entries).get? key =
      (entries.filter fun entry => entry.1 == key).getLast?.map Prod.snd := by
  have none : Members.get? [] key = .none := rfl
  rw [ofEntries, get?_foldl_insert, none, Option.or_none]

end KeyClient.Members
