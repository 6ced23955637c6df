import KeyClient.CommandLine.Slots

/-!
# Values in slots

Setting one slot leaves the others as they are, unless it is that of the ground.  Two collections
of values agree off some slots (`OptionValues.AgreeOff`) if they differ there at most; setting one
of these slots keeps that.
-/

namespace KeyClient.CommandLine.OptionValues

/-! ## Setting a slot -/

theorem lookup_insertInto_of_ne {slot other : String} (h : other ≠ slot) (kept : Kept)
    (entries : List (String × Kept)) :
    (insertInto slot kept entries).lookup other = entries.lookup other := by
  have differs : (other == slot) = false := by simpa using h
  induction entries with
  | nil => simp [insertInto, List.lookup_cons, differs]
  | cons entry rest ih =>
    obtain ⟨s, k⟩ := entry
    by_cases same : s = slot
    · subst same
      simp [insertInto, List.lookup_cons, differs]
    · simp only [insertInto, if_neg same, List.lookup_cons, ih]

theorem set_of_ne_ground {slot : String} (h : slot ≠ Ground.name) (values : OptionValues)
    (v : Value) (origin : Option String) :
    values.set slot v origin =
      { values with entries := insertInto slot ⟨.value v, origin⟩ values.entries } := by
  have plain : values.ground.isGround slot = false := by simp [Ground.isGround, h]
  simp [set, plain]

/-- The value that was stored in a slot; one that was never set holds nothing. -/
def stored (values : OptionValues) (slot : String) : Value :=
  (values.own? slot).getD .undefined

theorem stored_of_lookup {values : OptionValues} {slot : String} {v : Value}
    {origin : Option String} (h : values.entries.lookup slot = some ⟨.value v, origin⟩) :
    values.stored slot = v := by
  rw [stored, own?, h]
  rfl

theorem setting_get_of_lookup {values : OptionValues} {slot : String} {kept : Kept}
    (h : values.entries.lookup slot = some kept) : (values.get slot).setting = kept.setting := by
  rw [get, h]

/-! ## Setting several slots -/

/-- The values with slots set one after another. -/
def setAll (values : OptionValues) (settings : List (String × Value)) : OptionValues :=
  settings.foldl (fun values setting => values.set setting.1 setting.2 none) values

/-- The values that are set for a slot. -/
def valuesFor (slot : String) (settings : List (String × Value)) : List Value :=
  settings.filterMap fun setting => if setting.1 = slot then some setting.2 else none

/-- Of several values for a slot the last one stays. -/
theorem lookup_setAll {settings : List (String × Value)}
    (grounded : ∀ setting ∈ settings, setting.1 ≠ Ground.name) (values : OptionValues)
    (slot : String) :
    (values.setAll settings).entries.lookup slot =
      ((valuesFor slot settings).getLast?.map fun v => ⟨.value v, none⟩).or
        (values.entries.lookup slot) := by
  induction settings generalizing values with
  | nil => rfl
  | cons setting rest ih =>
    have ne : setting.1 ≠ Ground.name := grounded setting List.mem_cons_self
    have last := ih (fun other mem => grounded other (List.mem_cons_of_mem _ mem))
      (values.set setting.1 setting.2 none)
    rw [setAll, List.foldl_cons, ← setAll, last, set_of_ne_ground ne]
    by_cases same : setting.1 = slot
    · subst same
      have front : valuesFor setting.1 (setting :: rest) =
          setting.2 :: valuesFor setting.1 rest := by simp [valuesFor]
      rw [front, lookup_insertInto, List.getLast?_cons]
      cases (valuesFor setting.1 rest).getLast? <;> rfl
    · have front : valuesFor slot (setting :: rest) = valuesFor slot rest := by
        simp [valuesFor, same]
      rw [front, lookup_insertInto_of_ne fun other => same other.symm]

/-- Settings that words make: of the words for a slot the last one counts. -/
theorem lookup_setAll_map {α β : Type} {setting : α → String × Value} {field? : α → Option β}
    {toValue : β → Value} {slot : String} (grounded : ∀ a, (setting a).1 ≠ Ground.name)
    (own : ∀ a, (if (setting a).1 = slot then some (setting a).2 else none) =
      (field? a).map toValue) (values : OptionValues) (words : List α) :
    (values.setAll (words.map setting)).entries.lookup slot =
      ((words.filterMap field?).getLast?.map fun b => ⟨.value (toValue b), none⟩).or
        (values.entries.lookup slot) := by
  have same : valuesFor slot (words.map setting) = (words.filterMap field?).map toValue := by
    rw [valuesFor, List.filterMap_map, List.map_filterMap]
    exact congrArg (List.filterMap · words) (funext own)
  rw [lookup_setAll (List.forall_mem_map.2 fun a _ => grounded a), same, List.getLast?_map,
    Option.map_map]
  rfl

theorem ground_setAll {settings : List (String × Value)}
    (grounded : ∀ setting ∈ settings, setting.1 ≠ Ground.name) (values : OptionValues) :
    (values.setAll settings).ground = values.ground := by
  refine List.foldlRecOn (motive := fun others : OptionValues => others.ground = values.ground)
    settings _ rfl fun others same setting mem => ?_
  rw [set_of_ne_ground (grounded setting mem)]
  exact same

theorem own?_of_lookup {values : OptionValues} {slot : String} {v : Option Value}
    (h : values.entries.lookup slot = v.map fun v => ⟨.value v, none⟩) :
    values.own? slot = v := by
  rw [own?, h]
  cases v <;> rfl

/-- What a slot was set to, if nothing was set before. -/
theorem own?_setAll_map {α β : Type} {setting : α → String × Value} {field? : α → Option β}
    {toValue : β → Value} {slot : String} (grounded : ∀ a, (setting a).1 ≠ Ground.name)
    (own : ∀ a, (if (setting a).1 = slot then some (setting a).2 else none) =
      (field? a).map toValue) (words : List α) :
    (empty.setAll (words.map setting)).own? slot =
      (words.filterMap field?).getLast?.map toValue := by
  refine own?_of_lookup ?_
  rw [lookup_setAll_map grounded own, Option.map_map]
  exact Option.or_none

/-! ## Agreement -/

/-- The values differ at most in some slots, and lie on the same ground. -/
structure AgreeOff (slots : List String) (values others : OptionValues) : Prop where
  ground : values.ground = others.ground
  groundOrigin : values.groundOrigin = others.groundOrigin
  lookup : ∀ slot ∉ slots, values.entries.lookup slot = others.entries.lookup slot

variable {slots : List String} {values others : OptionValues}

theorem AgreeOff.refl (slots : List String) (values : OptionValues) :
    AgreeOff slots values values :=
  ⟨rfl, rfl, fun _ _ => rfl⟩

/-- Setting one of the slots keeps the agreement off them. -/
theorem AgreeOff.set (h : AgreeOff slots values others) {slot : String} (mem : slot ∈ slots)
    (ne : slot ≠ Ground.name) (v : Value) (origin : Option String) :
    AgreeOff slots (values.set slot v origin) others := by
  rw [set_of_ne_ground ne]
  refine ⟨h.ground, h.groundOrigin, fun other off => ?_⟩
  have ne' : other ≠ slot := fun same => off (same ▸ mem)
  rw [lookup_insertInto_of_ne ne', h.lookup other off]

/-- Setting any slot to one value in both keeps the agreement. -/
theorem AgreeOff.setBoth (h : AgreeOff slots values others) {slot : String}
    (ne : slot ≠ Ground.name) (v : Value) (origin : Option String) :
    AgreeOff slots (values.set slot v origin) (others.set slot v origin) := by
  rw [set_of_ne_ground ne, set_of_ne_ground ne]
  refine ⟨h.ground, h.groundOrigin, fun other off => ?_⟩
  by_cases same : other = slot
  · subst same
    rw [lookup_insertInto, lookup_insertInto]
  · rw [lookup_insertInto_of_ne same, lookup_insertInto_of_ne same, h.lookup other off]

/-- A copy of values on the common ground is as good as they are. -/
theorem AgreeOff.copy (h : AgreeOff slots values others) (ground : others.ground = .common)
    (groundOrigin : others.groundOrigin = none) : AgreeOff slots values.copy others :=
  ⟨ground.symm, groundOrigin.symm, h.lookup⟩

theorem AgreeOff.get (h : AgreeOff slots values others) {slot : String} (off : slot ∉ slots) :
    values.get slot = others.get slot := by
  unfold OptionValues.get
  rw [h.lookup slot off, h.ground, h.groundOrigin]

theorem AgreeOff.own? (h : AgreeOff slots values others) {slot : String} (off : slot ∉ slots) :
    values.own? slot = others.own? slot := by
  unfold OptionValues.own?
  rw [h.lookup slot off]

theorem AgreeOff.stored (h : AgreeOff slots values others) {slot : String} (off : slot ∉ slots) :
    values.stored slot = others.stored slot := by
  unfold OptionValues.stored
  rw [h.own? off]

end KeyClient.CommandLine.OptionValues
