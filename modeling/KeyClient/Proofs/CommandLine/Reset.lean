import KeyClient.Program.Commands
import KeyClient.Proofs.CommandLine.Scan
import KeyClient.Proofs.CommandLine.Slots
import Mathlib.Data.List.Basic

/-!
# Putting options back

Taking the matches of a command gives every slot the default of the option that was declared last
for it (`Command.lastDefault`), whatever the command lines before it were.  A command gets back the
values that it had before its first command line exactly if declaring its options gave every slot
that default too (`CommandState.take_restores_iff`).
-/

namespace KeyClient.CommandLine

open OptionValues

namespace Command

/-- The slots of the options. -/
def slots (command : Command) : List String := command.options.map OptionSpec.slot

/-- No option is kept in the slot of the ground. -/
def IsGrounded (command : Command) : Prop := ∀ spec ∈ command.options, spec.slot ≠ Ground.name

instance (command : Command) : Decidable command.IsGrounded :=
  inferInstanceAs (Decidable (∀ spec ∈ command.options, spec.slot ≠ Ground.name))

/-- The default of the option that was declared last for a slot. -/
def lastDefault (command : Command) (slot : String) : Value :=
  ((command.options.filter (·.slot == slot)).getLast?.map OptionSpec.default).getD .undefined

theorem slot_mem_slots {command : Command} {spec : OptionSpec} (mem : spec ∈ command.options) :
    spec.slot ∈ command.slots :=
  List.mem_map_of_mem mem

/-! ## Declaring options -/

/-- Declaring options sets slots of these options only. -/
theorem agreeOff_initialValues {slots : List String} {earlier specs : List OptionSpec}
    {values others : OptionValues} (mem : ∀ spec ∈ specs, spec.slot ∈ slots)
    (grounded : ∀ spec ∈ specs, spec.slot ≠ Ground.name) (h : AgreeOff slots values others) :
    AgreeOff slots (initialValues earlier values specs) others := by
  induction specs generalizing earlier values with
  | nil => exact h
  | cons spec rest ih =>
    have memRest := fun other member => mem other (List.mem_cons_of_mem _ member)
    have groundedRest := fun other member => grounded other (List.mem_cons_of_mem _ member)
    unfold initialValues
    split
    · exact ih memRest groundedRest
        (h.set (mem spec List.mem_cons_self) (grounded spec List.mem_cons_self) _ _)
    · exact ih memRest groundedRest h

/-! ## Resetting options -/

/-- After a reset a slot holds the default of the last of its options; other slots are as they
were. -/
theorem lookup_foldl_reset (specs : List OptionSpec) {slot : String} (values : OptionValues)
    (grounded : ∀ spec ∈ specs, spec.slot ≠ Ground.name) :
    (specs.foldl (fun values spec => values.set spec.slot spec.default (some spec.flags))
        values).entries.lookup slot =
      match (specs.filter (·.slot == slot)).getLast? with
      | some spec => some ⟨.value spec.default, some spec.flags⟩
      | none => values.entries.lookup slot := by
  induction specs generalizing values with
  | nil => rfl
  | cons spec rest ih =>
    have ne : spec.slot ≠ Ground.name := grounded spec List.mem_cons_self
    rw [List.foldl_cons, ih _ fun other member => grounded other (List.mem_cons_of_mem _ member),
      set_of_ne_ground ne]
    by_cases same : spec.slot = slot
    · subst same
      rw [List.filter_cons_of_pos (by simp), List.getLast?_cons, lookup_insertInto]
      cases (rest.filter (·.slot == spec.slot)).getLast? <;> rfl
    · rw [List.filter_cons_of_neg (by simpa using same),
        lookup_insertInto_of_ne fun other => same other.symm]

variable {command : Command}

theorem lookup_resetValues_of_mem (grounded : command.IsGrounded) (values : OptionValues)
    {slot : String} (mem : slot ∈ command.slots) :
    ∃ origin, (command.resetValues values).entries.lookup slot =
      some ⟨.value (command.lastDefault slot), origin⟩ := by
  rw [resetValues, lookup_foldl_reset _ _ grounded, lastDefault]
  cases last : (command.options.filter (·.slot == slot)).getLast? with
  | some spec => exact ⟨some spec.flags, rfl⟩
  | none =>
    obtain ⟨spec, member, rfl⟩ := List.mem_map.1 mem
    have none := List.filter_eq_nil_iff.1 (List.getLast?_eq_none_iff.1 last) spec member
    exact absurd (beq_self_eq_true spec.slot) none

end Command

/-! ## States of a command -/

namespace CommandState

/-- The states that a command can be in: it parses command lines and hands over its matches. -/
inductive Reached (command : Command) : CommandState → Prop
  | fresh : Reached command (.fresh command)
  | parse {state : CommandState} (parent : Option Parent) (operands args : List String)
      (reached : Reached command state) :
      Reached command (command.parse parent state operands args).1
  | take {state : CommandState} (reached : Reached command state) :
      Reached command (state.take command).2

/-- The values, and those to go back to, differ from the initial ones in slots of options only. -/
structure IsConfined (command : Command) (state : CommandState) : Prop where
  values : AgreeOff command.slots state.values (fresh command).values
  saved : ∀ saved, state.saved = some saved → AgreeOff command.slots saved (fresh command).values

variable {command : Command} {state : CommandState}

theorem agreeOff_fresh (grounded : command.IsGrounded) :
    AgreeOff command.slots (fresh command).values .empty :=
  Command.agreeOff_initialValues (fun _ => Command.slot_mem_slots) grounded (.refl _ _)

theorem isConfined_fresh (command : Command) : (fresh command).IsConfined command :=
  ⟨.refl _ _, fun _ none => nomatch none⟩

theorem IsConfined.withValues (h : state.IsConfined command) {values : OptionValues}
    (agree : AgreeOff command.slots values (fresh command).values) :
    (state.withValues values).IsConfined command :=
  ⟨agree, h.saved⟩

theorem IsConfined.prepare (grounded : command.IsGrounded) (h : state.IsConfined command) :
    state.prepare.IsConfined command := by
  have start := agreeOff_fresh grounded
  unfold CommandState.prepare
  split
  · refine ⟨h.values, fun saved same => ?_⟩
    obtain rfl := Option.some.inj same
    exact h.values.copy start.ground start.groundOrigin
  · next saved same => exact ⟨h.saved saved same, h.saved⟩

/-- A command line sets options of the command only. -/
theorem IsConfined.parse (grounded : command.IsGrounded) (h : state.IsConfined command)
    (parent : Option Parent) (operands args : List String) :
    (command.parse parent state operands args).1.IsConfined command := by
  have prepared := h.prepare grounded
  have keeps : Scan.Keeps (.ofCommand command)
      (AgreeOff command.slots · (fresh command).values) := fun spec mem _ v agree =>
    agree.set (Command.slot_mem_slots mem) (grounded spec mem) v none
  exact prepared.withValues (keeps.run args prepared.values)

/-- Handing over the matches sets options of the command only. -/
theorem IsConfined.take (grounded : command.IsGrounded) (h : state.IsConfined command) :
    (state.take command).2.IsConfined command := by
  refine h.withValues ?_
  refine List.foldlRecOn (motive := (AgreeOff command.slots · (fresh command).values))
    command.options _ h.values fun values agree spec mem => ?_
  exact agree.set (Command.slot_mem_slots mem) (grounded spec mem) _ _

theorem Reached.isConfined (grounded : command.IsGrounded) (h : Reached command state) :
    state.IsConfined command := by
  induction h with
  | fresh => exact isConfined_fresh command
  | parse parent operands args _ ih => exact ih.parse grounded parent operands args
  | take _ ih => exact ih.take grounded

/-! ## What is put back -/

/-- After the matches are taken a slot of an option holds the default of the last one declared for
it. -/
theorem lookup_take_of_mem (grounded : command.IsGrounded) (state : CommandState) {slot : String}
    (mem : slot ∈ command.slots) :
    ∃ origin, (state.take command).2.values.entries.lookup slot =
      some ⟨.value (command.lastDefault slot), origin⟩ :=
  Command.lookup_resetValues_of_mem grounded state.values mem

/-- All other slots are as they were at first. -/
theorem Reached.agreeOff_take (grounded : command.IsGrounded) (h : Reached command state) :
    AgreeOff command.slots (state.take command).2.values (CommandState.fresh command).values :=
  ((h.isConfined grounded).take grounded).values

/-- The matches are made from what the options read. -/
theorem matchesOf_congr {values others : OptionValues}
    (same : ∀ spec ∈ command.options,
      (values.get spec.slot).setting = (others.get spec.slot).setting) :
    command.matchesOf values = command.matchesOf others := by
  unfold Command.matchesOf
  refine List.foldl_ext _ _ _ fun m spec mem => ?_
  simp only [same spec mem]

/-- Declaring the options stored in every slot the default of the last option declared for it. -/
def IsRestorable (command : Command) : Prop :=
  ∀ spec ∈ command.options,
    (fresh command).values.stored spec.slot = command.lastDefault spec.slot

/-- Before any command line every option reads the default of the last option declared for its
slot. -/
def ReadsDefaults (command : Command) : Prop :=
  ∀ spec ∈ command.options,
    ((fresh command).values.get spec.slot).setting = .value (command.lastDefault spec.slot)

/-- **Putting options back.**  A command that hands over its matches, whatever command lines it
parsed before, hands over what its options held.  Afterwards every slot stores what it stored
before the first command line exactly if declaring the options stored the last defaults; every
option reads as it did then exactly if it read the last default, and in this case the command has
the matches of one that never parsed anything. -/
theorem take_restores_iff (grounded : command.IsGrounded) (reached : Reached command state) :
    let initial := (fresh command).values
    let left := (state.take command).2.values
    (state.take command).1 = command.matchesOf state.values ∧
    ((∀ slot, left.stored slot = initial.stored slot) ↔ IsRestorable command) ∧
    ((∀ spec ∈ command.options, (left.get spec.slot).setting = (initial.get spec.slot).setting) ↔
      ReadsDefaults command) ∧
    (ReadsDefaults command → command.matchesOf left = command.matchesOf initial) := by
  intro initial left
  have storedLeft : ∀ slot ∈ command.slots, left.stored slot = command.lastDefault slot := by
    intro slot mem
    obtain ⟨origin, found⟩ := lookup_take_of_mem grounded state mem
    exact stored_of_lookup found
  have readLeft : ∀ spec ∈ command.options,
      (left.get spec.slot).setting = .value (command.lastDefault spec.slot) := by
    intro spec mem
    obtain ⟨origin, found⟩ := lookup_take_of_mem grounded state (Command.slot_mem_slots mem)
    exact setting_get_of_lookup found
  refine ⟨rfl, ⟨fun same spec mem => ?_, fun restorable slot => ?_⟩,
    ⟨fun same spec mem => ?_, fun reads spec mem => ?_⟩, fun reads => ?_⟩
  · rw [← storedLeft _ (Command.slot_mem_slots mem)]
    exact (same spec.slot).symm
  · by_cases mem : slot ∈ command.slots
    · obtain ⟨spec, member, rfl⟩ := List.mem_map.1 mem
      rw [storedLeft _ mem]
      exact (restorable spec member).symm
    · exact (reached.agreeOff_take grounded).stored mem
  · rw [← readLeft spec mem]
    exact (same spec mem).symm
  · rw [readLeft spec mem]
    exact (reads spec mem).symm
  · exact matchesOf_congr fun spec mem => (readLeft spec mem).trans (reads spec mem).symm

/-- The command for keys with options added to it. -/
def keysWith (extras : List OptionSpec) : Command :=
  { Program.operationCommand .keyGet with
    options := (Program.operationCommand .keyGet).options ++ extras }

/-- An option that collects its values. -/
def tags : OptionSpec := Program.option "--tags <tag...>" "" "--tags" "" none

/-- An option that switches off what is declared to be on. -/
def noCache : OptionSpec :=
  { Program.option "--no-cache" "" "--no-cache" "" none with default := .bool true }

/-- An option that switches off what is on without being declared so. -/
def noColor : OptionSpec := Program.option "--no-color" "" "--no-color" "" none

/-- Behind a command line that sets tags and cache both are put back; the color is not, whatever
the command line. -/
theorem take_restores_cache_not_color :
    let command := keysWith [tags, noCache]
    let parsed := command.parse none (fresh command) [] ["--key=true", "--tags", "a", "--no-cache"]
    let colored := keysWith [noColor]
    let bare := colored.parse none (fresh colored) [] []
    (Program.extend (Program.operationCommand .keyGet) [tags, noCache] = .ok command ∧
      parsed.2 = none ∧
      (∀ slot, (parsed.1.take command).2.values.stored slot =
        (fresh command).values.stored slot) ∧
      command.matchesOf (parsed.1.take command).2.values =
        command.matchesOf (fresh command).values) ∧
    Program.extend (Program.operationCommand .keyGet) [noColor] = .ok colored ∧ bare.2 = none ∧
      ¬ ∀ slot, (bare.1.take colored).2.values.stored slot =
        (fresh colored).values.stored slot := by
  intro command parsed colored bare
  have grounded : command.IsGrounded := by decide +kernel
  have groundedColored : colored.IsGrounded := by decide +kernel
  have reached : Reached command parsed.1 := .parse none [] _ .fresh
  have reachedColored : Reached colored bare.1 := .parse none [] _ .fresh
  have restores := take_restores_iff grounded reached
  have fails := take_restores_iff groundedColored reachedColored
  have restorable : IsRestorable command :=
    List.forall_mem_cons.2 ⟨rfl, List.forall_mem_cons.2 ⟨rfl, List.forall_mem_cons.2 ⟨rfl,
      List.forall_mem_cons.2 ⟨rfl, List.forall_mem_nil _⟩⟩⟩⟩
  have reads : ReadsDefaults command :=
    List.forall_mem_cons.2 ⟨rfl, List.forall_mem_cons.2 ⟨rfl, List.forall_mem_cons.2 ⟨rfl,
      List.forall_mem_cons.2 ⟨rfl, List.forall_mem_nil _⟩⟩⟩⟩
  refine ⟨⟨rfl, by decide +kernel, restores.2.1.2 restorable, restores.2.2.2 reads⟩, rfl,
    by decide +kernel, fun same => ?_⟩
  -- the color is on at first, but has no default that could be put back
  have color := fails.2.1.1 same noColor (List.mem_append_right _ List.mem_cons_self)
  have on : (fresh colored).values.stored noColor.slot = .bool true := rfl
  have off : colored.lastDefault noColor.slot = .undefined := rfl
  rw [on, off] at color
  cases color

end CommandState

end KeyClient.CommandLine
