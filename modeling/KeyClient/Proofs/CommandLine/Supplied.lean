import KeyClient.Proofs.CommandLine.Names
import KeyClient.Proofs.CommandLine.Reading
import KeyClient.Proofs.CommandLine.Reset
import KeyClient.Proofs.CommandLine.Routed

/-!
# Supplied values

If no two options of a command share a slot (`Command.IsDistinct`), an occurrence of one leaves the
values of the others alone.  So an option whose values are read one by one (`OptionSpec.Reads`)
holds what the last text supplied for it stands for, or nothing (`CommandState.setting_parse`), and
the matches of the command list just that under its name (`Command.get_matchesOf`).
-/

namespace KeyClient

theorem Setting.eq_missing_of_isMissing {setting : Setting} (h : setting.isMissing = true) :
    setting = .missing := by
  unfold Setting.isMissing at h
  split at h
  · rfl
  · cases h

namespace Matches

/-- What is inserted under a name is found there, and all else as before. -/
theorem lookup_insert (m : Matches) (name other : String) (setting : Setting) :
    (m.insert name setting).entries.lookup other =
      if other = name then some setting else m.entries.lookup other := by
  obtain ⟨entries⟩ := m
  unfold Matches.insert
  dsimp only
  have differs : ∀ {n : String}, other ≠ n → (other == n) = false := beq_eq_false_iff_ne.2
  induction entries with
  | nil =>
    by_cases same : other = name <;> simp [Matches.insertInto, List.lookup_cons, same, differs]
  | cons entry rest ih =>
    obtain ⟨n, old⟩ := entry
    by_cases here : n = name
    · subst here
      by_cases same : other = n <;> simp [Matches.insertInto, List.lookup_cons, same, differs]
    · by_cases same : other = n
      · subst same
        simp [Matches.insertInto, here]
      · simp only [Matches.insertInto, if_neg here, List.lookup_cons, differs same, ih]

theorem has_iff_isSome_lookup (m : Matches) (name : String) :
    m.has name = true ↔ (m.entries.lookup name).isSome = true := by
  rw [Matches.has, Matches.names, List.contains_iff_mem, List.mem_map, List.lookup_isSome_iff]
  exact exists_congr fun entry => and_congr_right fun _ => eq_comm.trans beq_iff_eq.symm

end Matches

namespace CommandLine

open OptionValues Scan

/-! ## Commands whose options have slots of their own -/

/-- The options are declared, no two of them share a slot, and on the common ground there is nothing
in their slots. -/
structure Command.IsDistinct (command : Command) : Prop where
  declared : ∀ spec ∈ command.options, spec.IsDeclared
  slots : command.slots.Nodup
  free : ∀ spec ∈ command.options, Ground.common.get spec.slot = .missing

section

variable {α : Type} {key : α → String} {l : List α} {a : α}

/-- Around a member that is told apart by a key there are none with that key. -/
theorem exists_split_of_nodup (h : (l.map key).Nodup) (mem : a ∈ l) :
    ∃ before after, l = before ++ a :: after ∧ (∀ b ∈ before, key b ≠ key a) ∧
      ∀ b ∈ after, key b ≠ key a := by
  obtain ⟨before, after, rfl⟩ := List.append_of_mem mem
  rw [List.map_append, List.map_cons, List.nodup_middle, List.nodup_cons, ← List.map_append] at h
  have apart : ∀ b ∈ before ++ after, key b ≠ key a := fun b member same =>
    h.1 (List.mem_map.2 ⟨b, member, same⟩)
  exact ⟨before, after, rfl, (List.forall_mem_append.1 apart).1, (List.forall_mem_append.1 apart).2⟩

theorem filter_eq_singleton (h : (l.map key).Nodup) (mem : a ∈ l) :
    (l.filter fun b => key b == key a) = [a] := by
  obtain ⟨before, after, rfl, front, behind⟩ := exists_split_of_nodup h mem
  have none : ∀ others : List α, (∀ b ∈ others, key b ≠ key a) →
      (others.filter fun b => key b == key a) = [] := by
    intro others apart
    exact List.filter_eq_nil_iff.2 fun b member same => apart b member (beq_iff_eq.1 same)
  rw [List.filter_append, none before front, List.nil_append, List.filter_cons, none after behind]
  simp

end

section

variable {command : Command} {spec other : OptionSpec}

theorem ne_ground_of_free {slot : String} (h : Ground.common.get slot = .missing) :
    slot ≠ Ground.name := by
  rintro rfl
  cases h

namespace Command.IsDistinct

theorem grounded (h : command.IsDistinct) : command.IsGrounded := fun spec mem =>
  ne_ground_of_free (h.free spec mem)

theorem eq_of_slot (h : command.IsDistinct) (mem : spec ∈ command.options)
    (mem' : other ∈ command.options) (same : spec.slot = other.slot) : spec = other :=
  List.inj_on_of_nodup_map h.slots mem mem' same

/-- Options with slots of their own have names of their own. -/
theorem names (h : command.IsDistinct) : (command.options.map OptionSpec.name).Nodup := by
  refine List.pairwise_map.2 ((List.pairwise_map.1 h.slots).imp_of_mem ?_)
  intro spec other mem mem' apart same
  exact apart ((h.declared spec mem).slot_eq (h.declared other mem') same)

theorem eq_of_name (h : command.IsDistinct) (mem : spec ∈ command.options)
    (mem' : other ∈ command.options) (same : spec.name = other.name) : spec = other :=
  List.inj_on_of_nodup_map h.names mem mem' same

theorem matchNames (h : command.IsDistinct) :
    (command.options.map OptionSpec.matchName).Nodup := by
  rw [List.map_congr_left fun spec mem => (h.declared spec mem).matchName_eq_name]
  exact h.names

theorem filter_name (h : command.IsDistinct) (mem : spec ∈ command.options) :
    (command.options.filter fun other => other.name == spec.name) = [spec] :=
  filter_eq_singleton h.names mem

theorem lastDefault_slot (h : command.IsDistinct) (mem : spec ∈ command.options) :
    command.lastDefault spec.slot = spec.default := by
  rw [Command.lastDefault, filter_eq_singleton h.slots mem]
  rfl

/-- An occurrence sets the slot of its option alone. -/
theorem valuesAfter_eq (h : command.IsDistinct) (mem : spec ∈ command.options) (given : Given)
    (values : OptionValues) :
    valuesAfter (.ofCommand command) values (spec, given) =
      (spec.receive (values.get spec.slot) given).map fun v => values.set spec.slot v none := by
  have occurs : (Context.ofCommand command).occur spec given (.start values) =
      storeAll given (.start values) [spec] := by
    rw [← h.filter_name mem]
    rfl
  rw [valuesAfter, occurs, storeAll, Scan.store]
  dsimp only [start]
  cases spec.receive (values.get spec.slot) given <;> rfl

end Command.IsDistinct

end

/-! ## Texts that are supplied -/

/-- The text that is given. -/
def Given.text? : Given → Option String
  | text s => some s
  | _ => none

/-- The texts that are given for the options of a name. -/
def textsFor (name : String) (occurrences : List (OptionSpec × Given)) : List String :=
  occurrences.filterMap fun (spec, given) => if spec.name = name then given.text? else none

/-- The texts that some words supply for the options of a name, from left to right. -/
def Command.supplied (command : Command) (args : List String) (name : String) : List String :=
  textsFor name (occurrences (.ofCommand command) none args)

/-- The option needs a value, has none by itself, and takes texts one by one: what it holds is read
from the last of them. -/
structure OptionSpec.Reads (spec : OptionSpec) (read : String → Option Value) : Prop where
  required : spec.isRequired = true
  positive : spec.isNegated = false
  default : spec.default = .undefined
  receive : ∀ old s v, spec.receive old (.text s) = .ok v → read s = some v

/-- Between the values, a slot has come to hold what the last of some texts reads as; if there are
none, it holds what it held. -/
structure Comes (slot : String) (read : String → Option Value) (texts : List String)
    (values later : OptionValues) : Prop where
  ground : later.ground = values.ground
  lookup : match texts.getLast? with
    | none => later.entries.lookup slot = values.entries.lookup slot
    | some s => ∃ v, read s = some v ∧ later.entries.lookup slot = some ⟨.value v, none⟩

section

variable {slot : String} {read : String → Option Value} {values later last : OptionValues}

theorem Comes.refl (values : OptionValues) : Comes slot read [] values values := ⟨rfl, rfl⟩

theorem Comes.trans {texts more : List String} (h : Comes slot read texts values later)
    (h' : Comes slot read more later last) : Comes slot read (texts ++ more) values last := by
  obtain ⟨ground, held⟩ := h
  obtain ⟨ground', held'⟩ := h'
  refine ⟨ground'.trans ground, ?_⟩
  rw [List.getLast?_append]
  cases final : more.getLast? with
  | some s =>
    rw [final] at held'
    exact held'
  | none =>
    rw [final] at held'
    rw [held', Option.none_or]
    exact held

variable {command : Command} {spec : OptionSpec}

/-- One occurrence. -/
theorem comes_valuesAfter (distinct : command.IsDistinct) (mem : spec ∈ command.options)
    (reads : spec.Reads read) {other : OptionSpec} {given : Given}
    (offered : IsOffered command other given)
    (h : valuesAfter (.ofCommand command) values (other, given) = .ok later) :
    Comes spec.slot read (textsFor spec.name [(other, given)]) values later := by
  rw [distinct.valuesAfter_eq offered.mem] at h
  cases received : other.receive (values.get other.slot) given with
  | error error =>
    rw [received] at h
    cases h
  | ok v =>
    rw [received] at h
    obtain rfl := Except.ok.inj h
    dsimp only
    rw [set_of_ne_ground (distinct.grounded other offered.mem)]
    refine ⟨rfl, ?_⟩
    by_cases same : other.name = spec.name
    · obtain rfl := distinct.eq_of_name offered.mem mem same
      obtain ⟨s, rfl⟩ := offered.text reads.required
      have text : textsFor other.name [(other, .text s)] = [s] :=
        List.filterMap_cons_some (if_pos rfl)
      rw [text]
      exact ⟨v, reads.receive _ _ _ received, lookup_insertInto _ _ _⟩
    · have text : textsFor spec.name [(other, given)] = [] :=
        List.filterMap_cons_none (if_neg same)
      have apart : spec.slot ≠ other.slot := fun shared =>
        same (congrArg OptionSpec.name (distinct.eq_of_slot mem offered.mem shared)).symm
      rw [text]
      exact lookup_insertInto_of_ne apart _ _

/-- Of the texts that occurrences supply the last one counts. -/
theorem comes_of_occurrences (distinct : command.IsDistinct) (mem : spec ∈ command.options)
    (reads : spec.Reads read) {occurrences : List (OptionSpec × Given)}
    (offered : ∀ occurrence ∈ occurrences, IsOffered command occurrence.1 occurrence.2)
    (h : occurrences.foldlM (valuesAfter (.ofCommand command)) values = .ok last) :
    Comes spec.slot read (textsFor spec.name occurrences) values last := by
  induction occurrences generalizing values with
  | nil =>
    cases h
    exact .refl _
  | cons occurrence rest ih =>
    rw [List.foldlM_cons] at h
    cases first : valuesAfter (.ofCommand command) values occurrence with
    | error error =>
      rw [first] at h
      cases h
    | ok middle =>
      rw [first] at h
      have comes := comes_valuesAfter distinct mem reads (offered _ List.mem_cons_self) first
      have texts : textsFor spec.name (occurrence :: rest) =
          textsFor spec.name [occurrence] ++ textsFor spec.name rest :=
        List.filterMap_append (l := [occurrence])
      rw [texts]
      exact comes.trans (ih (fun _ member => offered _ (List.mem_cons_of_mem _ member)) h)

end

/-! ## Values before a command line -/

/-- Declaring options leaves a slot alone whose options have no values by themselves. -/
theorem lookup_initialValues {earlier specs : List OptionSpec} {values : OptionValues}
    {slot : String} (grounded : ∀ spec ∈ specs, spec.slot ≠ Ground.name)
    (bare : ∀ spec ∈ specs, spec.slot = slot → spec.isNegated = false ∧ spec.default = .undefined) :
    (Command.initialValues earlier values specs).entries.lookup slot =
      values.entries.lookup slot := by
  induction specs generalizing earlier values with
  | nil => rfl
  | cons spec rest ih =>
    have groundedRest := fun other mem => grounded other (List.mem_cons_of_mem _ mem)
    have bareRest := fun other mem => bare other (List.mem_cons_of_mem _ mem)
    unfold Command.initialValues
    dsimp only
    rw [ih groundedRest bareRest]
    cases initial : Command.initial? earlier spec with
    | none => rfl
    | some start =>
      have apart : slot ≠ spec.slot := by
        rintro rfl
        obtain ⟨positive, default⟩ := bare spec List.mem_cons_self rfl
        rw [Command.initial?, positive, default] at initial
        cases initial
      dsimp only
      rw [set_of_ne_ground (grounded spec List.mem_cons_self), lookup_insertInto_of_ne apart]

namespace CommandState

variable {command : Command} {spec : OptionSpec} {read : String → Option Value}
  {state : CommandState}

theorem setting_get_congr {values others : OptionValues} {slot : String}
    (same : values.entries.lookup slot = others.entries.lookup slot)
    (ground : values.ground = others.ground) :
    (values.get slot).setting = (others.get slot).setting := by
  unfold OptionValues.get
  rw [same, ground]
  cases others.entries.lookup slot <;> rfl

theorem setting_fresh (distinct : command.IsDistinct) (mem : spec ∈ command.options)
    (reads : spec.Reads read) : ((fresh command).values.get spec.slot).setting = .missing := by
  have common : (fresh command).values.ground = .common :=
    (agreeOff_fresh distinct.grounded).ground
  have absent : (fresh command).values.entries.lookup spec.slot = none := by
    refine lookup_initialValues distinct.grounded fun other mem' same => ?_
    obtain rfl := distinct.eq_of_slot mem' mem same
    exact ⟨reads.positive, reads.default⟩
  rw [OptionValues.get, absent, common]
  exact distinct.free spec mem

theorem setting_take (distinct : command.IsDistinct) (mem : spec ∈ command.options)
    (reads : spec.Reads read) (state : CommandState) :
    ((state.take command).2.values.get spec.slot).setting = .missing := by
  obtain ⟨origin, found⟩ :=
    lookup_take_of_mem distinct.grounded state (Command.slot_mem_slots mem)
  rw [distinct.lastDefault_slot mem, reads.default] at found
  exact setting_get_of_lookup found

/-- Before a command line, whatever came before it, an option without a value by itself has none. -/
theorem setting_prepare (distinct : command.IsDistinct) (mem : spec ∈ command.options)
    (reads : spec.Reads read) (reached : Reached command state) :
    (state.prepare.values.get spec.slot).setting = .missing := by
  have starts : (∀ saved, state.saved = some saved → (saved.get spec.slot).setting = .missing) ∧
      (state.saved = none → (state.values.get spec.slot).setting = .missing) := by
    induction reached with
    | fresh =>
      refine ⟨?_, fun _ => setting_fresh distinct mem reads⟩
      rintro _ ⟨⟩
    | @parse state parent operands args reached ih =>
      -- the first command line saves the values, the later ones keep what is saved
      cases saved : state.saved with
      | none =>
        have left : (command.parse parent state operands args).1.saved =
            some state.values.copy := by rw [Command.parse, CommandState.prepare, saved]; rfl
        rw [left]
        refine ⟨?_, fun none => absurd none (Option.some_ne_none _)⟩
        rintro _ ⟨⟩
        have common := (reached.isConfined distinct.grounded).values.ground.trans
          (agreeOff_fresh distinct.grounded).ground
        have copied : (state.values.copy.get spec.slot).setting =
            (state.values.get spec.slot).setting := setting_get_congr rfl common.symm
        exact copied.trans (ih.2 saved)
      | some values =>
        have left : (command.parse parent state operands args).1.saved = some values := by
          rw [Command.parse, CommandState.prepare, saved]
          rfl
        rw [left]
        refine ⟨?_, fun none => absurd none (Option.some_ne_none _)⟩
        rintro _ ⟨⟩
        exact ih.1 values saved
    | take reached ih => exact ⟨ih.1, fun _ => setting_take distinct mem reads _⟩
  unfold CommandState.prepare
  split
  · next none => exact starts.2 none
  · next saved same => exact starts.1 saved same

/-- **Supplied values.**  After a command line that is carried out, an option that takes texts one
by one holds what the last text supplied for it stands for, and nothing if none is supplied. -/
theorem setting_parse (distinct : command.IsDistinct) (mem : spec ∈ command.options)
    (reads : spec.Reads read) (reached : Reached command state) {parent : Option Parent}
    {operands args : List String} {after : CommandState}
    (parsed : command.parse parent state operands args = (after, none)) :
    match (command.supplied args spec.name).getLast? with
    | none => (after.values.get spec.slot).setting = .missing
    | some s => ∃ v, read s = some v ∧ (after.values.get spec.slot).setting = .value v := by
  cases scanned : Scan.run (.ofCommand command) (.start state.prepare.values) args with
  | mk last error =>
    have ends : error = none := by
      have accepted := (Command.parse_eq_none_iff _ _ _ _).1 (congrArg Prod.snd parsed)
      rw [scanned] at accepted
      exact accepted.1
    have left : after.values = last.values := by
      have values := congrArg (fun parsed => parsed.1.values) parsed
      rw [Command.parse, scanned] at values
      exact values.symm
    subst ends
    have none : ∀ other ∈ (none : Option OptionSpec), other ∈ command.options :=
      fun other mem => absurd mem (Option.not_mem_none other)
    obtain ⟨ground, held⟩ := comes_of_occurrences distinct mem reads
      (fun occurrence member => isOffered_of_mem none member) (values_run rfl scanned)
    rw [left, Command.supplied]
    cases found : (textsFor spec.name
        (occurrences (.ofCommand command) Option.none args)).getLast? with
    | none =>
      rw [found] at held
      exact (setting_get_congr held ground).trans (setting_prepare distinct mem reads reached)
    | some s =>
      rw [found] at held
      obtain ⟨v, readAs, held⟩ := held
      exact ⟨v, readAs, setting_get_of_lookup held⟩

end CommandState

/-! ## What the matches list -/

namespace Command

/-- The matches with what an option holds. -/
def listed (values : OptionValues) (m : Matches) (spec : OptionSpec) : Matches :=
  let setting := (values.get spec.slot).setting
  if setting.isMissing then m else m.insert spec.matchName setting

theorem matchesOf_eq (command : Command) (values : OptionValues) :
    command.matchesOf values = command.options.foldl (listed values) .empty := rfl

/-- Options of other names leave the entry of a name alone. -/
theorem lookup_foldl_listed {name : String} {specs : List OptionSpec}
    (others : ∀ spec ∈ specs, spec.matchName ≠ name) (values : OptionValues) (m : Matches) :
    (specs.foldl (listed values) m).entries.lookup name = m.entries.lookup name := by
  refine List.foldlRecOn
    (motive := fun other : Matches => other.entries.lookup name = m.entries.lookup name)
    specs _ rfl fun other same spec mem => ?_
  unfold listed
  dsimp only
  split
  · exact same
  · rw [Matches.lookup_insert, if_neg (others spec mem).symm, same]

variable {command : Command} {spec : OptionSpec}

/-- The matches list an option under its name, with what it holds, if it holds anything. -/
theorem lookup_matchesOf (distinct : command.IsDistinct) (mem : spec ∈ command.options)
    (values : OptionValues) :
    (command.matchesOf values).entries.lookup spec.name =
      let setting := (values.get spec.slot).setting
      if setting.isMissing then none else some setting := by
  obtain ⟨before, after, parts, front, behind⟩ := exists_split_of_nodup distinct.matchNames mem
  rw [← (distinct.declared spec mem).matchName_eq_name, matchesOf_eq, parts, List.foldl_append,
    List.foldl_cons, lookup_foldl_listed behind]
  unfold listed
  dsimp only
  split
  · exact lookup_foldl_listed front _ _
  · rw [Matches.lookup_insert, if_pos rfl]

theorem get_matchesOf (distinct : command.IsDistinct) (mem : spec ∈ command.options)
    (values : OptionValues) :
    (command.matchesOf values).get spec.name = (values.get spec.slot).setting := by
  rw [Matches.get, lookup_matchesOf distinct mem]
  dsimp only
  split
  · next missing => exact (Setting.eq_missing_of_isMissing missing).symm
  · rfl

/-- The matches have the name of an option exactly if it holds something. -/
theorem has_matchesOf_iff (distinct : command.IsDistinct) (mem : spec ∈ command.options)
    (values : OptionValues) :
    (command.matchesOf values).has spec.name = true ↔
      (values.get spec.slot).setting ≠ .missing := by
  rw [Matches.has_iff_isSome_lookup, lookup_matchesOf distinct mem]
  dsimp only
  split
  · next missing => simp [Setting.eq_missing_of_isMissing missing]
  · next present =>
    refine iff_of_true rfl fun missing => present ?_
    rw [missing]
    rfl

end Command

end CommandLine

end KeyClient
