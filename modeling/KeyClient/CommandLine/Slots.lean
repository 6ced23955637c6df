import KeyClient.Setting

/-!
# Slots

Where the values of options are kept.  Every slot has a name; `OptionValues.get` looks it up among
the values that have been set and then in the ground below them, and `OptionValues.set` keeps the
order in which slots were first set.  So are the option values of a command of commander 13.1.0
kept, which are members of an object.
-/

namespace KeyClient.CommandLine

/-- What a slot holds; `origin` tells whose default it is, if it is one. -/
structure Kept where
  setting : Setting
  origin : Option String
deriving Repr

/-- The values of options by slot, in the order in which they were first set, and the ground
below them, with whose default it is. -/
structure OptionValues where
  entries : List (String × Kept)
  ground : Ground
  groundOrigin : Option String
deriving Repr

namespace OptionValues

/-- No values. -/
def empty : OptionValues := ⟨[], .common, none⟩

/-- What a slot holds. -/
def get (values : OptionValues) (slot : String) : Kept :=
  match values.entries.lookup slot with
  | some kept => kept
  | none =>
    ⟨values.ground.get slot, if values.ground.isGround slot then values.groundOrigin else none⟩

/-- The entries with another value for a slot. -/
def insertInto (slot : String) (kept : Kept) : List (String × Kept) → List (String × Kept)
  | [] => [(slot, kept)]
  | (s, k) :: rest => if s = slot then (s, kept) :: rest else (s, k) :: insertInto slot kept rest

/-- Whether the slot has been set. -/
def isSet (values : OptionValues) (slot : String) : Bool :=
  (values.entries.lookup slot).isSome

/-- Set the value of a slot.  The slot of the ground takes containers only, and `null` for none;
every other value is lost there. -/
def set (values : OptionValues) (slot : String) (value : Value) (origin : Option String) :
    OptionValues :=
  if values.ground.isGround slot && !values.isSet slot then
    match Ground.ofValue? value with
    | some ground => { values with ground := ground, groundOrigin := origin }
    | none => values
  else { values with entries := insertInto slot ⟨.value value, origin⟩ values.entries }

/-- A copy on the common ground. -/
def copy (values : OptionValues) : OptionValues := ⟨values.entries, .common, none⟩

/-- What a slot was set to. -/
def own? (values : OptionValues) (slot : String) : Option Value :=
  (values.entries.lookup slot).bind fun kept => kept.setting.value?

/-- The values that have been set, as members of an object. -/
def members (values : OptionValues) : Members :=
  Members.ofEntries (values.entries.filterMap fun (slot, kept) =>
    kept.setting.value?.map fun v => (slot, v))

theorem lookup_insertInto (slot : String) (kept : Kept) (entries : List (String × Kept)) :
    (insertInto slot kept entries).lookup slot = some kept := by
  induction entries with
  | nil => simp [insertInto]
  | cons entry rest ih =>
    obtain ⟨s, k⟩ := entry
    by_cases same : s = slot
    · simp [insertInto, same]
    · have differs : (slot == s) = false := by simpa using fun h => same h.symm
      simp [insertInto, same, List.lookup_cons, differs, ih]

/-- A slot holds what it was set to, unless it is that of the ground. -/
theorem get_set_self {values : OptionValues} {slot : String} (value : Value)
    (origin : Option String) (h : slot ≠ Ground.name) :
    ((values.set slot value origin).get slot) = ⟨.value value, origin⟩ := by
  have plain : values.ground.isGround slot = false := by simp [Ground.isGround, h]
  simp [set, get, plain, lookup_insertInto]

end OptionValues

end KeyClient.CommandLine
