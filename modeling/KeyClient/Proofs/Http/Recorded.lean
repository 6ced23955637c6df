import KeyClient.Http.Headers
import KeyClient.Proofs.Value.Members
import Mathlib.Data.List.Basic

/-!
# The record of headers

The record of some headers has one member for each name under which headers arrived, but for the one
name that cannot be set (`Headers.get?_record`).  A member holds all values of its name, joined in
the order of arrival, unless the values of that name are not joined at all or not by commas.  So the
record is whole exactly if no such name arrived, or not more than once
(`Headers.isWhole_record_iff`).
-/

namespace KeyClient

namespace Http.Headers

/-- The values that arrived under a name, without padding. -/
def received (headers : Headers) (name : String) : List String :=
  (headers.filter fun header => lower header.1 == name).map fun header => trim header.2

/-- All values of a name with commas between them, if there are any. -/
def joined? (arrived : List String) : Option String :=
  if arrived = [] then none else some (", ".intercalate arrived)

/-- What the record holds of the values of a name. -/
def held? (name : String) (arrived : List String) : Option String :=
  if name = unsettable then none
  else if name = unjoined then arrived.getLast?
  else if arrived = [] then none
  else some ((separator name).intercalate arrived)

/-- The members are one for each name under which headers arrived, each with all values of its
name. -/
structure IsWhole (headers : Headers) (members : Members) : Prop where
  once : (members.map Prod.fst).Nodup
  all : ∀ name, members.get? name = (joined? (received headers name)).map .string

/-! ## Names -/

theorem values_normalize (headers : Headers) (name : String) :
    values (normalize headers) name = received headers name := by
  simp [values, normalize, received, List.filter_map, Function.comp_def]

theorem mem_names {headers : Headers} {name : String} :
    name ∈ names headers ↔ values headers name ≠ [] := by
  simp only [names, values, List.mem_mergeSort, List.mem_eraseDups, List.mem_map, ne_eq,
    List.map_eq_nil_iff, List.filter_eq_nil_iff, not_forall, not_not, beq_iff_eq]
  constructor
  · rintro ⟨header, mem, same⟩
    exact ⟨header, mem, same⟩
  · rintro ⟨header, mem, same⟩
    exact ⟨header, mem, same⟩

theorem nodup_eraseDups : ∀ keys : List String, keys.eraseDups.Nodup
  | [] => by simp
  | key :: rest => by
    rw [List.eraseDups_cons, List.nodup_cons]
    constructor
    · simp
    · exact nodup_eraseDups (rest.filter fun other => !other == key)
termination_by keys => keys.length
decreasing_by
  have shorter := List.length_filter_le (fun other => !other == key) rest
  simp only [List.length_cons]
  omega

theorem nodup_names (headers : Headers) : (names headers).Nodup :=
  (List.mergeSort_perm _ _).nodup_iff.2 (nodup_eraseDups _)

/-! ## Entries of a name -/

/-- The entries that one key contributes are all there is under it. -/
theorem filter_flatMap_of_nodup {β : Type} {keys : List String} (nodup : keys.Nodup)
    {entries : String → List (String × β)} (own : ∀ key, ∀ entry ∈ entries key, entry.1 = key)
    (name : String) :
    (keys.flatMap entries).filter (fun entry => entry.1 == name) =
      if name ∈ keys then entries name else [] := by
  induction keys with
  | nil => simp
  | cons key rest ih =>
    obtain ⟨fresh, nodup⟩ := List.nodup_cons.1 nodup
    rw [List.flatMap_cons, List.filter_append, ih nodup]
    by_cases same : key = name
    · subst same
      have all : (entries key).filter (fun entry => entry.1 == key) = entries key :=
        List.filter_eq_self.2 fun entry mem => beq_iff_eq.2 (own key entry mem)
      simp [all, fresh]
    · have none : (entries key).filter (fun entry => entry.1 == name) = [] :=
        List.filter_eq_nil_iff.2 fun entry mem => by simpa [own key entry mem] using same
      simp [none, Ne.symm same]

/-- What the combined headers have under a name. -/
theorem filter_combined (headers : Headers) (name : String) :
    (combined headers).filter (fun header => header.1 == name) =
      if name = unjoined then (received headers name).map (name, ·)
      else if received headers name = [] then []
      else [(name, (separator name).intercalate (received headers name))] := by
  have own : ∀ key, ∀ entry ∈
      (if key = unjoined then (values (normalize headers) key).map (key, ·)
        else [(key, (separator key).intercalate (values (normalize headers) key))]),
      entry.1 = key := by
    intro key entry mem
    split_ifs at mem
    · obtain ⟨value, -, rfl⟩ := List.mem_map.1 mem
      rfl
    · rw [List.mem_singleton.1 mem]
  rw [combined, filter_flatMap_of_nodup (nodup_names _) own name]
  by_cases none : received headers name = []
  · simp [mem_names, values_normalize, none]
  · simp [mem_names, values_normalize, none]

/-! ## The record -/

/-- Every name is in the record once. -/
theorem nodup_record (headers : Headers) : ((record headers).map Prod.fst).Nodup :=
  (Members.areOrdered_ofEntries _).nodup

/-- A header as a member. -/
def toMember (header : String × String) : String × Value := (header.1, .string header.2)

theorem record_eq (headers : Headers) : record headers =
    .ofEntries (((combined headers).filter fun header => header.1 != unsettable).map toMember) := rfl

/-- The members that are set under a name are its headers, unless the name cannot be set. -/
theorem filter_members (headers : Headers) (name : String) :
    (((combined headers).filter fun header => header.1 != unsettable).map toMember).filter
        (fun member => member.1 == name) =
      if name = unsettable then []
      else ((combined headers).filter fun header => header.1 == name).map toMember := by
  split_ifs with lost
  · subst lost
    refine List.filter_eq_nil_iff.2 fun member mem => ?_
    obtain ⟨header, kept, rfl⟩ := List.mem_map.1 mem
    simpa [toMember] using (List.mem_filter.1 kept).2
  · rw [List.filter_map, List.filter_filter]
    refine congrArg (List.map toMember) (List.filter_congr fun header _ => ?_)
    by_cases here : header.1 = name
    · simp [toMember, here, lost]
    · simp [toMember, here]

/-- What the record has under a name. -/
theorem get?_record (headers : Headers) (name : String) :
    (record headers).get? name = (held? name (received headers name)).map .string := by
  rw [record_eq, Members.get?_ofEntries, filter_members, filter_combined, held?]
  split_ifs with lost unjoined none
  · rfl
  · rw [List.map_map, List.getLast?_map, Option.map_map]
    rfl
  · rfl
  · rfl

/-! ## What is lost -/

theorem length_getLast_le (separator : String) {arrived : List String} (some : arrived ≠ []) :
    (arrived.getLast some).length ≤ (separator.intercalate arrived).length := by
  induction arrived with
  | nil => exact absurd rfl some
  | cons first rest ih =>
    cases rest with
    | nil => simp
    | cons second rest =>
      have shorter := ih (List.cons_ne_nil second rest)
      rw [List.getLast_cons (List.cons_ne_nil second rest), String.intercalate_cons_cons,
        String.length_append]
      omega

/-- The last of several values is not all of them. -/
theorem getLast?_eq_joined?_iff (arrived : List String) :
    arrived.getLast? = joined? arrived ↔ arrived.length ≤ 1 := by
  match arrived with
  | [] => simp [joined?]
  | [value] => simp [joined?]
  | first :: second :: rest =>
    have shorter := length_getLast_le ", " (List.cons_ne_nil second rest)
    have comma : ", ".length = 2 := rfl
    refine iff_of_false (fun same => ?_) (by simp)
    rw [joined?, if_neg (List.cons_ne_nil _ _), List.getLast?_eq_some_getLast (List.cons_ne_nil _ _),
      List.getLast_cons (List.cons_ne_nil second rest), Option.some.injEq] at same
    rw [same, String.intercalate_cons_cons, String.length_append, String.length_append] at shorter
    omega

/-- Several values with semicolons between them are not those with commas. -/
theorem semicolons_eq_commas_iff (arrived : List String) :
    "; ".intercalate arrived = ", ".intercalate arrived ↔ arrived.length ≤ 1 := by
  match arrived with
  | [] => simp
  | [value] => simp
  | first :: second :: rest =>
    refine iff_of_false (fun same => ?_) (by simp)
    have differs := congrArg String.toList same
    simp [String.intercalate_cons_cons] at differs

/-- When nothing is lost of the values of a name. -/
theorem held?_eq_joined?_iff (name : String) (arrived : List String) :
    held? name arrived = joined? arrived ↔
      (name = "__proto__" → arrived = []) ∧ (name = "set-cookie" → arrived.length ≤ 1) ∧
        (name = "cookie" → arrived.length ≤ 1) := by
  unfold held?
  split_ifs with lost unjoined none
  · subst lost
    simp [unsettable, joined?]
  · subst unjoined
    simp [Headers.unjoined, getLast?_eq_joined?_iff]
  · simp [none, joined?]
  · rw [joined?, if_neg none, Option.some.injEq]
    by_cases cookie : name = "cookie"
    · subst cookie
      simp [separator, semicolons_eq_commas_iff]
    · simp_all [separator, Headers.unjoined, unsettable]

/-- The record is whole unless the name that cannot be set arrived, or one of those that are not
joined by commas more than once. -/
theorem isWhole_record_iff (headers : Headers) :
    IsWhole headers (record headers) ↔
      received headers "__proto__" = [] ∧ (received headers "set-cookie").length ≤ 1 ∧
        (received headers "cookie").length ≤ 1 := by
  have held : IsWhole headers (record headers) ↔
      ∀ name, held? name (received headers name) = joined? (received headers name) := by
    have same : ∀ a b : Option String, a.map Value.string = b.map Value.string ↔ a = b :=
      fun a b => (Option.map_injective fun s t h => Value.string.inj h).eq_iff
    simp only [← same, ← get?_record]
    exact ⟨IsWhole.all, fun all => ⟨nodup_record headers, all⟩⟩
  rw [held]
  simp only [held?_eq_joined?_iff]
  constructor
  · intro all
    exact ⟨(all _).1 rfl, (all _).2.1 rfl, (all _).2.2 rfl⟩
  · rintro ⟨unset, unjoined, cookie⟩ name
    refine ⟨?_, ?_, ?_⟩
    · rintro rfl
      exact unset
    · rintro rfl
      exact unjoined
    · rintro rfl
      exact cookie

end Http.Headers

end KeyClient
