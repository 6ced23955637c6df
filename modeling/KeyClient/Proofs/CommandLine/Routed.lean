import KeyClient.Proofs.CommandLine.Aside
import KeyClient.Proofs.CommandLine.Fresh

/-!
# Words that go to a command

If the root of a suite takes none of the words behind the name of a command, the command gets these
words as they are, and it comes to the same as on its own (`Suite.outcome_of_ignores`).  Of one word
that the root takes, the command gets a shorter one at most (`Suite.route_singleton`).
-/

namespace KeyClient.CommandLine

open Scan

theorem OptionSpec.hasSpelling_iff (spec : OptionSpec) (word : String) :
    spec.hasSpelling word = true ↔
      spec.spellings.short = some word ∨ spec.spellings.long = some word := by
  rw [hasSpelling, Bool.or_eq_true, beq_iff_eq, beq_iff_eq]

/-- A word at the start that does not look like an option is an operand. -/
theorem Scan.run_start_of_plain {name : String} (plain : isOptionLike name = false)
    (context : Context) (values : OptionValues) (args : List String) :
    Scan.run context (start values) (name :: args) =
      Scan.run context ⟨values, [name], [], false, none⟩ args := by
  rw [run_of_next (step_of_plain plain rfl args), other_of_plain rfl plain]
  rfl

/-! ## A command with operands set apart -/

namespace Command

variable {command : Command}

theorem objection?_eq_none_iff (parent : Option Parent) (operands : List String) (scan : Scan) :
    command.objection? parent operands scan = none ↔
      command.missing? scan.values = none ∧ scan.unknown = [] ∧ operands ++ scan.operands = [] := by
  unfold objection?
  cases unknown : scan.unknown with
  | nil => cases missing : command.missing? scan.values <;> simp
  | cons flag rest =>
    refine iff_of_false ?_ fun ⟨_, empty, _⟩ => List.cons_ne_nil _ _ empty
    dsimp only
    split
    · exact Option.some_ne_none _
    · cases command.missing? scan.values <;> exact Option.some_ne_none _

/-- When a command line is carried out: nothing is wrong with its options and nothing is left. -/
theorem parse_eq_none_iff (parent : Option Parent) (state : CommandState)
    (operands args : List String) :
    (command.parse parent state operands args).2 = none ↔
      let (scan, error) := Scan.run (.ofCommand command) (.start state.prepare.values) args
      error = none ∧ command.missing? scan.values = none ∧ scan.unknown = [] ∧
        operands ++ scan.operands = [] := by
  unfold parse
  dsimp only
  cases (Scan.run (.ofCommand command) (.start state.prepare.values) args).2 with
  | some error => simp
  | none => simp [objection?_eq_none_iff]

/-- The values are those of the options, whatever else was on the command line. -/
theorem state_parse (command : Command) (parent parent' : Option Parent) (state : CommandState)
    (operands operands' args : List String) :
    (command.parse parent state operands args).1 = (command.parse parent' state operands' args).1 :=
  rfl

/-- A word that is an operand is in the way of every command line. -/
theorem parse_operand (command : Command) (parent : Option Parent) (state : CommandState)
    {word : String} (plain : isOptionLike word = false) (rest : List String) :
    (command.parse parent state [] (word :: rest)).2 ≠ none := by
  rw [Ne, parse_eq_none_iff, run_start_of_plain plain]
  rintro ⟨-, -, -, none⟩
  have found := operands_run (.ofCommand command)
    ⟨state.prepare.values, [word], [], false, Option.none⟩ rest
  rw [List.nil_append] at none
  rw [none] at found
  exact absurd (List.prefix_nil.1 found) (List.cons_ne_nil _ _)

/-- It does not matter whether the operands at the start are set apart, nor whose command it is. -/
theorem parse_divide (command : Command) (parent parent' : Option Parent) (state : CommandState)
    (args : List String) :
    let divided := command.parse parent state (divide args).1 (divide args).2
    let whole := command.parse parent' state [] args
    (divided.2 = none ↔ whole.2 = none) ∧ (whole.2 = none → divided.1 = whole.1) := by
  cases args with
  | nil => exact ⟨by rw [divide, parse_eq_none_iff, parse_eq_none_iff], fun _ => rfl⟩
  | cons word rest =>
    by_cases dashes : word = "--"
    · subst dashes
      have whole : Scan.run (.ofCommand command) (.start state.prepare.values) ("--" :: rest) =
          ({ start state.prepare.values with operands := rest }, none) :=
        run_of_stop (step_dashes _ _)
      rw [divide_dashes]
      refine ⟨?_, fun _ => ?_⟩
      · rw [parse_eq_none_iff, parse_eq_none_iff, whole, Scan.run]
        simp [start]
      · rw [parse, parse, whole, Scan.run]
    · cases looks : isOptionLike word with
      | true =>
        rw [divide_of_looks looks dashes]
        exact ⟨by rw [parse_eq_none_iff, parse_eq_none_iff], fun _ => rfl⟩
      | false =>
        have whole := command.parse_operand parent' state looks rest
        refine ⟨iff_of_false ?_ whole, fun none => absurd none whole⟩
        rw [parse_eq_none_iff, divide_of_plain looks]
        rintro ⟨-, -, -, none⟩
        cases none

end Command

/-! ## The words behind the name of a command -/

namespace Suite

variable {suite : Suite} {command : Command} {name : String}

/-- What the root takes. -/
def context (suite : Suite) : Context := ⟨suite.root, some (suite.versionOption, suite.version)⟩

/-- The root takes its own options and the one for the version. -/
theorem spelling_of_find? {word : String} {spec : OptionSpec}
    (h : suite.context.find? word = some spec) :
    spec ∈ suite.options ∧ spec.hasSpelling word = true := by
  change (if suite.versionOption.hasSpelling word then some suite.versionOption
    else suite.root.find? word) = some spec at h
  split at h
  · next spelled =>
    cases h
    exact ⟨List.mem_cons_self, spelled⟩
  · exact ⟨List.mem_cons_of_mem _ (List.mem_of_find?_eq_some h),
      List.find?_some (p := fun spec : OptionSpec => spec.hasSpelling word) h⟩

theorem route_of_error {values : OptionValues} {args : List String} {scan : Scan}
    {error : UsageError}
    (h : Scan.run suite.context (.start values) args = (scan, some error)) :
    suite.route values args = (scan.values, .error (.ofError error)) := by
  unfold route
  rw [← context, h]

theorem route_of_named (named : suite.find? name = some command) {values : OptionValues}
    {args rest : List String} {scan : Scan} (operands : scan.operands = name :: rest)
    (h : Scan.run suite.context (.start values) args = (scan, none)) :
    suite.route values args = (scan.values, .ok (command, rest, scan.unknown)) := by
  unfold route
  rw [← context, h]
  dsimp only
  rw [operands]
  dsimp only
  rw [named]

/-- The command that is named first gets the words, if they go to a command. -/
theorem command_of_route (named : suite.find? name = some command)
    (plain : isOptionLike name = false) {values : OptionValues} {args operands rest : List String}
    {command' : Command}
    (h : (suite.route values (name :: args)).2 = .ok (command', operands, rest)) :
    command' = command := by
  have scanned := run_start_of_plain plain suite.context values args
  have grows := operands_run suite.context ⟨values, [name], [], false, none⟩ args
  cases last : Scan.run suite.context (start values) (name :: args) with
  | mk scan error =>
    rw [scanned] at last
    rw [last] at grows
    cases error with
    | some error =>
      rw [route_of_error (scanned.trans last)] at h
      cases h
    | none =>
      obtain ⟨more, operands⟩ := grows
      rw [route_of_named named operands.symm (scanned.trans last)] at h
      cases h
      rfl

/-- Words that the root ignores go to the command as they are. -/
theorem route_of_ignores (named : suite.find? name = some command)
    (plain : isOptionLike name = false) {args : List String} (h : suite.context.Ignores args)
    (values : OptionValues) :
    suite.route values (name :: args) = (values, .ok (command, divide args)) := by
  obtain ⟨beyond, scanned⟩ := run_of_ignores ⟨values, [name], [], false, none⟩ rfl rfl h
  rw [← run_start_of_plain plain] at scanned
  exact route_of_named named rfl scanned

/-- **Words that the root ignores.**  A command line whose words the root ignores comes to what the
command makes of them on its own. -/
theorem outcome_of_ignores (named : suite.find? name = some command)
    (plain : isOptionLike name = false) {args : List String} (h : suite.context.Ignores args) :
    match command.parse none (.fresh command) [] args with
    | (new, none) => suite.outcome (name :: args) = .ok (command, new)
    | (_, some _) => ∃ halt, suite.outcome (name :: args) = .error halt := by
  obtain ⟨accepts, same⟩ :=
    command.parse_divide (some suite.parent) none (.fresh command) args
  rw [outcome, route_of_ignores named plain h]
  dsimp only
  generalize command.parse (some suite.parent) (.fresh command) (divide args).1 (divide args).2 =
    divided at *
  generalize command.parse none (.fresh command) [] args = whole at *
  obtain ⟨new, halt⟩ := whole
  obtain ⟨new', halt'⟩ := divided
  dsimp only at accepts same ⊢
  cases halt with
  | none =>
    obtain rfl : halt' = none := accepts.2 rfl
    obtain rfl : new' = new := same rfl
    rfl
  | some halt =>
    cases halt' with
    | none => cases accepts.1 rfl
    | some halt' => exact ⟨halt', rfl⟩

/-- A command gets no more than the words that the root leaves, and comes to what it makes of them
on its own. -/
theorem exists_route_of_outcome {args : List String} {new : CommandState}
    (h : suite.outcome args = .ok (command, new)) :
    ∃ rest, (suite.route (CommandState.fresh suite.root).values args).2 = .ok (command, [], rest) ∧
      command.parse none (.fresh command) [] rest = (new, none) := by
  rw [outcome] at h
  cases routed : (suite.route (CommandState.fresh suite.root).values args).2 with
  | error halt =>
    rw [routed] at h
    cases h
  | ok words =>
    obtain ⟨command', operands, rest⟩ := words
    rw [routed] at h
    dsimp only at h
    cases parsed : command'.parse (some suite.parent) (.fresh command') operands rest with
    | mk new' halt =>
      rw [parsed] at h
      cases halt with
      | some halt => cases h
      | none =>
        cases h
        have accepted := congrArg Prod.snd parsed
        dsimp only at accepted
        obtain ⟨ends, complete, known, bare⟩ := (Command.parse_eq_none_iff _ _ _ _).1 accepted
        obtain ⟨rfl, bare⟩ := List.append_eq_nil_iff.1 bare
        have same := command.state_parse none (some suite.parent) (.fresh command) [] [] rest
        refine ⟨rest, rfl, Prod.ext (same.trans (congrArg Prod.fst parsed)) ?_⟩
        exact (Command.parse_eq_none_iff none _ [] rest).2 ⟨ends, complete, known, bare⟩

/-- **One word that the root may take.**  Behind an option that the root ignores, the command gets a
single word as it is, or less than that if the root takes it; or the command line is halted. -/
theorem route_singleton (named : suite.find? name = some command)
    (plain : isOptionLike name = false) {front : String} (looks : isOptionLike front = true)
    (ne : front ≠ "--") (untaken : ¬ suite.context.Takes front) (values : OptionValues)
    (word : String) :
    (∃ halt, (suite.route values [name, front, word]).2 = .error halt) ∨
      ∃ left : Option String,
        (suite.route values [name, front, word]).2 = .ok (command, [], front :: left.toList) ∧
          ∀ other ∈ left, other.length ≤ word.length ∧
            (suite.context.Takes word → other.length < word.length) := by
  let scan : Scan := ⟨values, [name], [front], true, none⟩
  have scanned : Scan.run suite.context (start values) [name, front, word] =
      Scan.run suite.context scan [word] := by
    rw [run_start_of_plain plain, run_of_next (step_of_not_takes ne rfl untaken _),
      other_of_looks rfl looks]
    rfl
  cases last : Scan.run suite.context scan [word] with
  | mk after error =>
    have single := run_singleton suite.context scan rfl rfl word
    rw [last] at single
    cases error with
    | some error => exact .inl ⟨_, congrArg Prod.snd (route_of_error (scanned.trans last))⟩
    | none =>
      rcases single with halted | ⟨operands, left, unknown, short⟩
      · cases halted
      · refine .inr ⟨left, ?_, short⟩
        rw [route_of_named named operands (scanned.trans last)]
        dsimp only
        rw [unknown]
        rfl

end Suite

end KeyClient.CommandLine
