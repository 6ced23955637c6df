import KeyClient.Proofs.CommandLine.Reset
import Mathlib.Data.List.Nodup

/-!
# Every command line starts afresh

The root of a suite routes a command line: it is halted, or its words go to a command
(`Suite.route`, `Suite.parse_eq`).  A settled state (`SuiteState.IsSettled`) is one from which each
command goes back to its initial values; so a command line comes to the same from a settled state
as from a new one (`Suite.parse_of_isSettled`), and it leaves a settled state
(`SuiteState.IsSettled.parse`).
-/

namespace KeyClient.CommandLine

/-! ## One command -/

namespace CommandState

/-- The state is new, or it goes back to the initial values at the next command line. -/
def IsSettled (command : Command) (state : CommandState) : Prop :=
  state = fresh command ∨ state.saved = some (fresh command).values

variable {command : Command} {state : CommandState}

theorem copy_values_fresh (grounded : command.IsGrounded) :
    (fresh command).values.copy = (fresh command).values := by
  have start := agreeOff_fresh grounded
  rw [OptionValues.copy]
  exact congrArg₂ (OptionValues.mk _) start.ground.symm start.groundOrigin.symm

theorem IsSettled.prepare_eq (grounded : command.IsGrounded) (h : state.IsSettled command) :
    state.prepare = ⟨(fresh command).values, some (fresh command).values⟩ := by
  rcases h with rfl | saved
  · change CommandState.mk _ (some (fresh command).values.copy) = _
    rw [copy_values_fresh grounded]
  · rw [prepare, saved]

/-- A command line comes to the same from a settled state as from a new one. -/
theorem IsSettled.parse_eq (grounded : command.IsGrounded) (h : state.IsSettled command)
    (parent : Option Parent) (operands args : List String) :
    command.parse parent state operands args =
      command.parse parent (fresh command) operands args := by
  have new : IsSettled command (fresh command) := .inl rfl
  rw [Command.parse, Command.parse, h.prepare_eq grounded, new.prepare_eq grounded]

/-- Every command line leaves the initial values to go back to. -/
theorem saved_parse (grounded : command.IsGrounded) (h : state.IsSettled command)
    (parent : Option Parent) (operands args : List String) :
    (command.parse parent state operands args).1.saved = some (fresh command).values := by
  rw [Command.parse, h.prepare_eq grounded]
  rfl

end CommandState

/-! ## The states of a suite -/

namespace SuiteState

variable {state : SuiteState} {name : String} {command : Command}

theorem lookup_map_update (entries : List (String × CommandState)) (name other : String)
    (new : CommandState) :
    (entries.map fun (n, old) => if n = name then (n, new) else (n, old)).lookup other =
      (entries.lookup other).map fun old => if other = name then new else old := by
  induction entries with
  | nil => rfl
  | cons entry rest ih =>
    obtain ⟨n, old⟩ := entry
    by_cases same : other = n
    · subst same
      by_cases here : other = name <;> simp [here]
    · have differs : (other == n) = false := by simpa using same
      by_cases here : n = name
      · subst here
        simp [List.lookup_cons, differs, ih]
      · simp [here, List.lookup_cons, differs, ih]

theorem find_update_self (state : SuiteState) {command : Command}
    (known : command.name ∈ state.commands.map Prod.fst) (new : CommandState) :
    (state.update command.name new).find command = new := by
  obtain ⟨entry, member, same⟩ := List.mem_map.1 known
  have found : (state.commands.lookup command.name).isSome :=
    List.lookup_isSome_iff.2 ⟨entry, member, by simpa using same.symm⟩
  obtain ⟨old, found⟩ := Option.isSome_iff_exists.1 found
  rw [find, update, lookup_map_update, found, Option.map_some, if_pos rfl, Option.getD_some]

theorem find_update_of_ne (state : SuiteState) {command : Command} {name : String}
    (ne : command.name ≠ name) (new : CommandState) :
    (state.update name new).find command = state.find command := by
  rw [find, find, update, lookup_map_update]
  simp only [if_neg ne, Option.map_id']

theorem names_update (state : SuiteState) (name : String) (new : CommandState) :
    (state.update name new).commands.map Prod.fst = state.commands.map Prod.fst := by
  rw [update, List.map_map]
  refine List.map_congr_left fun entry _ => ?_
  simp only [Function.comp]
  split <;> rfl

end SuiteState

/-! ## Routing -/

namespace Suite

variable {suite : Suite}

/-- No option is kept in the slot of the ground, and every command has a name of its own. -/
structure IsProper (suite : Suite) : Prop where
  root : suite.root.IsGrounded
  commands : ∀ command ∈ suite.commands, command.IsGrounded
  names : (suite.commands.map Command.name).Nodup

/-- What the root makes of a command line: its own values, and why the command line is halted or
which command gets which words, those that are operands for the root and the others. -/
def route (suite : Suite) (values : OptionValues) (args : List String) :
    OptionValues × Except Halt (Command × List String × List String) :=
  let (scan, error) :=
    Scan.run ⟨suite.root, some (suite.versionOption, suite.version)⟩ (.start values) args
  (scan.values,
    match error with
    | some error => .error (.ofError error)
    | none =>
      match scan.operands with
      | [] => .error (suite.objection [] scan.unknown)
      | name :: rest =>
        match suite.find? name with
        | some command => .ok (command, rest, scan.unknown)
        | none =>
          .error (if name = helpWord then suite.help rest
            else suite.objection (name :: rest) scan.unknown))

/-- A command line for a suite is routed by the root and then parsed by a command. -/
theorem parse_eq (suite : Suite) (state : SuiteState) (args : List String) :
    suite.parse state args =
      let root := state.root.prepare
      let (values, routed) := suite.route root.values args
      let state := { state with root := root.withValues values }
      match routed with
      | .error halt => (state, .error halt)
      | .ok (command, operands, rest) =>
        let (new, halt) := command.parse (some suite.parent) (state.find command) operands rest
        (state.update command.name new,
          match halt with
          | some halt => .error halt
          | none => .ok command) := by
  unfold parse route
  dsimp only
  cases Scan.run ⟨suite.root, some (suite.versionOption, suite.version)⟩
    (.start state.root.prepare.values) args with
  | mk scan error =>
    cases error with
    | some error => rfl
    | none =>
      cases scan.operands with
      | nil => rfl
      | cons name rest =>
        dsimp only
        cases suite.find? name with
        | some command => rfl
        | none =>
          dsimp only
          split <;> rfl

theorem mem_of_route {values : OptionValues} {args : List String} {command : Command}
    {operands rest : List String}
    (h : (suite.route values args).2 = .ok (command, operands, rest)) :
    command ∈ suite.commands := by
  unfold route at h
  dsimp only at h
  split at h
  · cases h
  · split at h
    · cases h
    · split at h
      · next found =>
        cases h
        exact List.mem_of_find?_eq_some found
      · cases h

end Suite

/-! ## Settled states -/

/-- Every command of the suite goes back to its initial values at its next command line. -/
structure SuiteState.IsSettled (suite : Suite) (state : SuiteState) : Prop where
  root : state.root.IsSettled suite.root
  names : state.commands.map Prod.fst = suite.commands.map Command.name
  commands : ∀ command ∈ suite.commands, (state.find command).IsSettled command

namespace Suite

variable {suite : Suite} {state : SuiteState}

theorem IsProper.eq_of_name (proper : suite.IsProper) {command other : Command}
    (mem : command ∈ suite.commands) (mem' : other ∈ suite.commands)
    (same : command.name = other.name) : command = other :=
  List.inj_on_of_nodup_map proper.names mem mem' same

theorem IsProper.find_fresh (proper : suite.IsProper) {command : Command}
    (mem : command ∈ suite.commands) : suite.fresh.find command = .fresh command := by
  have all : ∀ {name : String} {found : CommandState},
      (suite.commands.map fun command => (command.name, CommandState.fresh command)).lookup name =
        some found → ∃ other ∈ suite.commands, other.name = name ∧ .fresh other = found := by
    intro name found h
    obtain ⟨before, after, parts, -⟩ := List.lookup_eq_some_iff.1 h
    have member : (name, found) ∈
        suite.commands.map fun command => (command.name, CommandState.fresh command) := by
      rw [parts]
      exact List.mem_append_right _ List.mem_cons_self
    obtain ⟨other, mem', same⟩ := List.mem_map.1 member
    exact ⟨other, mem', congrArg Prod.fst same, congrArg Prod.snd same⟩
  unfold SuiteState.find fresh
  dsimp only
  cases found : (suite.commands.map fun command =>
      (command.name, CommandState.fresh command)).lookup command.name with
  | none => rfl
  | some state =>
    obtain ⟨other, mem', same, rfl⟩ := all found
    rw [proper.eq_of_name mem' mem same, Option.getD_some]

/-- The state before any command line is settled. -/
theorem IsProper.isSettled_fresh (proper : suite.IsProper) : suite.fresh.IsSettled suite where
  root := .inl rfl
  names := by
    rw [fresh, List.map_map]
    rfl
  commands command mem := .inl (proper.find_fresh mem)

theorem IsProper.update (proper : suite.IsProper) (h : state.IsSettled suite) {command : Command}
    (mem : command ∈ suite.commands) {new : CommandState} (settled : new.IsSettled command) :
    (state.update command.name new).IsSettled suite where
  root := h.root
  names := (state.names_update command.name new).trans h.names
  commands other mem' := by
    by_cases same : other.name = command.name
    · obtain rfl := proper.eq_of_name mem' mem same
      rw [state.find_update_self (by rw [h.names]; exact List.mem_map_of_mem mem)]
      exact settled
    · rw [state.find_update_of_ne same]
      exact h.commands other mem'

theorem find_withRoot (state : SuiteState) (root : CommandState) (command : Command) :
    ({ state with root := root } : SuiteState).find command = state.find command := rfl

/-- **Starting afresh.**  A settled state counts for nothing: the root and the command that gets
the words start from their initial values. -/
theorem IsProper.parse_of_isSettled (proper : suite.IsProper) (h : state.IsSettled suite)
    (args : List String) :
    suite.parse state args =
      let initial := (CommandState.fresh suite.root).values
      let (values, routed) := suite.route initial args
      let state := { state with root := ⟨values, some initial⟩ }
      match routed with
      | .error halt => (state, .error halt)
      | .ok (command, operands, rest) =>
        let (new, halt) := command.parse (some suite.parent) (.fresh command) operands rest
        (state.update command.name new,
          match halt with
          | some halt => .error halt
          | none => .ok command) := by
  rw [parse_eq, h.root.prepare_eq proper.root]
  dsimp only [CommandState.withValues]
  cases routed : (suite.route (CommandState.fresh suite.root).values args).2 with
  | error halt => rfl
  | ok words =>
    obtain ⟨command, operands, rest⟩ := words
    have mem := mem_of_route routed
    dsimp only
    rw [find_withRoot, (h.commands command mem).parse_eq (proper.commands command mem)]

/-- Every command line leaves a settled state. -/
theorem IsProper.isSettled_parse (proper : suite.IsProper) (h : state.IsSettled suite)
    (args : List String) : (suite.parse state args).1.IsSettled suite := by
  rw [proper.parse_of_isSettled h]
  dsimp only
  let initial := (CommandState.fresh suite.root).values
  have root : ∀ values,
      ({ state with root := ⟨values, some initial⟩ } : SuiteState).IsSettled suite :=
    fun values => ⟨.inr rfl, h.names, h.commands⟩
  cases routed : (suite.route (CommandState.fresh suite.root).values args).2 with
  | error halt => exact root _
  | ok words =>
    obtain ⟨command, operands, rest⟩ := words
    have mem := mem_of_route routed
    exact proper.update (root _) mem
      (.inr (CommandState.saved_parse (proper.commands command mem) (.inl rfl) _ _ _))

/-- What a command line comes to: it is halted, or a command is to be carried out in a state. -/
def outcome (suite : Suite) (args : List String) : Except Halt (Command × CommandState) :=
  match (suite.route (CommandState.fresh suite.root).values args).2 with
  | .error halt => .error halt
  | .ok (command, operands, rest) =>
    match command.parse (some suite.parent) (.fresh command) operands rest with
    | (_, some halt) => .error halt
    | (new, none) => .ok (command, new)

/-- How the states are after a command line, by what it comes to. -/
structure Leaves (suite : Suite) (args : List String) (state : SuiteState) : Prop where
  root : state.root = ⟨(suite.route (CommandState.fresh suite.root).values args).1,
    some (CommandState.fresh suite.root).values⟩
  settled : state.IsSettled suite
  command : ∀ command new, suite.outcome args = .ok (command, new) →
    command ∈ suite.commands ∧ state.find command = new ∧
      new.saved = some (CommandState.fresh command).values

/-- From a settled state a command line comes to the same as from a new one, and so do the states
of the root and of the command that is to be carried out. -/
theorem IsProper.outcome_eq (proper : suite.IsProper) (h : state.IsSettled suite)
    (args : List String) :
    (suite.parse state args).2 = (suite.outcome args).map Prod.fst ∧
      suite.Leaves args (suite.parse state args).1 := by
  have settled := proper.isSettled_parse h args
  have parsed := proper.parse_of_isSettled h args
  dsimp only at parsed
  cases routed : (suite.route (CommandState.fresh suite.root).values args).2 with
  | error halt =>
    have halted : suite.outcome args = .error halt := by rw [outcome, routed]
    rw [routed] at parsed
    refine ⟨by rw [parsed, halted]; rfl, by rw [parsed], settled, fun command new ok => ?_⟩
    rw [halted] at ok
    cases ok
  | ok words =>
    obtain ⟨command, operands, rest⟩ := words
    have mem := mem_of_route routed
    have saved := CommandState.saved_parse (proper.commands command mem) (.inl rfl)
      (some suite.parent) operands rest
    rw [routed] at parsed
    dsimp only at parsed
    have outcome_eq : suite.outcome args =
        match command.parse (some suite.parent) (.fresh command) operands rest with
        | (_, some halt) => .error halt
        | (new, none) => .ok (command, new) := by rw [outcome, routed]
    generalize command.parse (some suite.parent) (.fresh command) operands rest = result at *
    obtain ⟨new, halt⟩ := result
    refine ⟨?_, by rw [parsed]; rfl, settled, fun other found ok => ?_⟩
    · rw [parsed, outcome_eq]
      cases halt <;> rfl
    · rw [outcome_eq] at ok
      cases halt with
      | some halt => cases ok
      | none =>
        cases ok
        refine ⟨mem, ?_, saved⟩
        rw [parsed]
        exact SuiteState.find_update_self _ (by rw [h.names]; exact List.mem_map_of_mem mem) _

/-- A command line that is accepted from a settled state comes to the command. -/
theorem IsProper.exists_outcome_of_parse (proper : suite.IsProper) (h : state.IsSettled suite)
    {args : List String} {command : Command} (accepted : (suite.parse state args).2 = .ok command) :
    ∃ new, suite.outcome args = .ok (command, new) := by
  have result := (proper.outcome_eq h args).1
  rw [accepted] at result
  cases outcome : suite.outcome args with
  | error halt =>
    rw [outcome] at result
    cases result
  | ok found =>
    rw [outcome] at result
    obtain ⟨command', new⟩ := found
    cases result
    exact ⟨new, rfl⟩

end Suite

end KeyClient.CommandLine
