import KeyClient.Proofs.Program.Agreement
import KeyClient.Proofs.Program.Footprint

/-!
# Setting up from the command line

The command that sets a project up reads its two flags in any order and number
(`Program.setsUp_flags`).  However it is called, it writes a configuration exactly if the user
consents to replacing what is there and chooses a valid one (`Program.setup_saves_iff`).
-/

namespace KeyClient

open KeyClient.CommandLine KeyClient.CommandLine.Scan KeyClient.Config KeyClient.Files

namespace CommandLine.OptionValues

/-- Setting a slot leaves the others as they are. -/
theorem get_set_of_ne {values : OptionValues} {slot other : String} (plain : slot ≠ Ground.name)
    (differs : other ≠ slot) (v : Value) (origin : Option String) :
    (values.set slot v origin).get other = values.get other := by
  rw [set_of_ne_ground plain]
  simp only [get, lookup_insertInto_of_ne differs]

end CommandLine.OptionValues

namespace Program

/-! ## The flags -/

/-- The options of the command that sets a project up. -/
def setupOptions : List OptionSpec := [forceOption, yesOption]

/-- One of the flags stores that its option was given. -/
theorem step_setup {flag : String} {spec : OptionSpec} (mem : spec ∈ setupOptions)
    (spelled : spec.hasSpelling flag = true) (values : OptionValues) (rest : List String) :
    Scan.step (.ofCommand setupCommand) (.start values) flag rest =
      .next (.start (values.set spec.slot (.bool true) none)) := by
  rw [OptionSpec.hasSpelling_iff] at spelled
  simp only [setupOptions, List.mem_cons, List.not_mem_nil, or_false] at mem
  rcases mem with rfl | rfl <;> rcases spelled with spelled | spelled <;> cases spelled <;> rfl

/-- The two options share neither a slot nor a flag. -/
theorem setupOptions_apart {flag : String} {spec other : OptionSpec} (mem : spec ∈ setupOptions)
    (spelled : spec.hasSpelling flag = true) (among : other ∈ setupOptions) :
    other = spec ∨ other.slot ≠ spec.slot ∧ other.hasSpelling flag = false := by
  rw [OptionSpec.hasSpelling_iff] at spelled
  simp only [setupOptions, List.mem_cons, List.not_mem_nil, or_false] at mem among
  rcases mem with rfl | rfl <;> rcases among with rfl | rfl
  · exact .inl rfl
  · rcases spelled with spelled | spelled <;> cases spelled <;> exact .inr (by decide)
  · rcases spelled with spelled | spelled <;> cases spelled <;> exact .inr (by decide)
  · exact .inl rfl

theorem setupSlots_plain : ∀ spec ∈ setupOptions, spec.slot ≠ Ground.name := by decide

/-- Flags leave nothing but what their options store. -/
theorem run_setup {flags : List String}
    (known : ∀ flag ∈ flags, ∃ spec ∈ setupOptions, spec.hasSpelling flag = true)
    (values : OptionValues) :
    ∃ last, Scan.run (.ofCommand setupCommand) (.start values) flags = (.start last, none) ∧
      ∀ spec ∈ setupOptions, (last.get spec.slot).setting =
        if flags.any spec.hasSpelling then .value (.bool true)
        else (values.get spec.slot).setting := by
  -- The values vary: a flag sets a slot, and the flags behind it start from there.
  induction flags generalizing values with
  | nil => exact ⟨values, by rw [Scan.run], fun _ _ => rfl⟩
  | cons flag flags ih =>
    obtain ⟨spec, mem, spelled⟩ := known flag List.mem_cons_self
    obtain ⟨last, scanned, stored⟩ := ih (fun other mem => known other (List.mem_cons_of_mem _ mem))
      (values.set spec.slot (.bool true) none)
    refine ⟨last, ?_, fun other among => ?_⟩
    · rw [run_of_next (step_setup mem spelled values flags), scanned]
    · have plain : spec.slot ≠ Ground.name := setupSlots_plain spec mem
      rw [stored other among, List.any_cons]
      rcases setupOptions_apart mem spelled among with rfl | ⟨differs, unspelled⟩
      · rw [OptionValues.get_set_self _ _ plain, spelled, Bool.true_or, if_pos rfl, ite_self]
      · rw [OptionValues.get_set_of_ne plain differs, unspelled, Bool.false_or]

/-- Nothing is wrong with a command line of flags, and its options are given as the flags say. -/
theorem parse_setup {flags : List String}
    (known : ∀ flag ∈ flags, ∃ spec ∈ setupOptions, spec.hasSpelling flag = true) :
    ∃ state, setupCommand.parse none (.fresh setupCommand) [] flags = (state, none) ∧
      ∀ spec ∈ setupOptions, isGiven state spec = flags.any spec.hasSpelling := by
  let initial := (CommandState.fresh setupCommand).values
  have prepared : (CommandState.fresh setupCommand).prepare = ⟨initial, some initial.copy⟩ := rfl
  obtain ⟨last, scanned, stored⟩ := run_setup known initial
  refine ⟨⟨last, some initial.copy⟩, ?_, fun spec mem => ?_⟩
  · rw [Command.parse, prepared]
    dsimp only
    rw [scanned]
    rfl
  · have unset : (initial.get spec.slot).setting = .missing := by
      simp only [setupOptions, List.mem_cons, List.not_mem_nil, or_false] at mem
      rcases mem with rfl | rfl <;> rfl
    rw [isGiven, stored spec mem, unset]
    cases flags.any spec.hasSpelling <;> rfl

/-- The flags of the command. -/
def setupFlags : List String := ["-f", "--force", "-y", "--yes"]

theorem spelled_of_mem_setupFlags {flag : String} (mem : flag ∈ setupFlags) :
    ∃ spec ∈ setupOptions, spec.hasSpelling flag = true := by
  simp only [setupFlags, List.mem_cons, List.not_mem_nil, or_false] at mem
  rcases mem with rfl | rfl | rfl | rfl
  · exact ⟨forceOption, List.mem_cons_self, rfl⟩
  · exact ⟨forceOption, List.mem_cons_self, rfl⟩
  · exact ⟨yesOption, List.mem_cons_of_mem _ List.mem_cons_self, rfl⟩
  · exact ⟨yesOption, List.mem_cons_of_mem _ List.mem_cons_self, rfl⟩

/-- How the setup is called by flags. -/
def settingsOf (flags : List String) : Setup.Settings :=
  ⟨decide ("-f" ∈ flags ∨ "--force" ∈ flags), decide ("-y" ∈ flags ∨ "--yes" ∈ flags)⟩

theorem any_hasSpelling {spec : OptionSpec} {short long : String}
    (spellings : spec.spellings = ⟨some short, some long⟩) (flags : List String) :
    flags.any spec.hasSpelling = decide (short ∈ flags ∨ long ∈ flags) := by
  rw [Bool.eq_iff_iff, List.any_eq_true, decide_eq_true_iff]
  simp only [OptionSpec.hasSpelling_iff, spellings, Option.some.injEq]
  constructor
  · rintro ⟨flag, mem, rfl | rfl⟩
    · exact .inl mem
    · exact .inr mem
  · rintro (mem | mem)
    · exact ⟨short, mem, .inl rfl⟩
    · exact ⟨long, mem, .inr rfl⟩

/-! ## Invocations -/

/-- The command line comes to the setup, called with these settings. -/
def SetsUp (program : Program) (state : ProgramState) (args : List String)
    (settings : Setup.Settings) : Prop :=
  ∃ command, (program.suite.parse state.options args).2 = .ok command ∧ command.name = "init" ∧
    let given := (program.suite.parse state.options args).1.find command
    settings = ⟨isGiven given forceOption, isGiven given yesOption⟩

/-- An invocation that sets a project up does what the setup does. -/
theorem SetsUp.effectsOf_invoke {program : Program} {state : ProgramState} {args : List String}
    {settings : Setup.Settings} (h : program.SetsUp state args settings)
    (surroundings : Surroundings) :
    effectsOf (program.invoke state args surroundings) =
      Setup.run program.project state.files settings surroundings.answers := by
  obtain ⟨command, parsed, named, rfl⟩ := h
  have task : Task.ofName? command.name = some .setUp := by
    rw [named]
    rfl
  unfold invoke
  generalize program.suite.parse state.options args = result at *
  obtain ⟨options, _⟩ := result
  dsimp only at parsed
  subst parsed
  dsimp only
  rw [task]
  rfl

/-- A new program sets its project up as the flags say. -/
theorem setsUp_flags (project : Project) (hook : Hook) (files : Tree) {flags : List String}
    (known : ∀ flag ∈ flags, flag ∈ setupFlags) :
    (create project hook).SetsUp ((create project hook).fresh files) ("init" :: flags)
      (settingsOf flags) := by
  have proper : standardSuite.IsProper := isProper_standardSuite
  have untaken : ∀ flag ∈ setupFlags, isRootWord flag = false := by decide
  have ignored : standardSuite.context.Ignores flags := fun word mem =>
    not_takes_of_not_isRootWord (untaken word (known word ((List.takeWhile_prefix _).subset mem)))
  obtain ⟨state, parsed, given⟩ :=
    parse_setup fun flag mem => spelled_of_mem_setupFlags (known flag mem)
  have named : standardSuite.find? "init" = some setupCommand := rfl
  have outcome := Suite.outcome_of_ignores named rfl ignored
  rw [parsed] at outcome
  obtain ⟨result, leaves⟩ := proper.outcome_eq proper.isSettled_fresh ("init" :: flags)
  rw [outcome] at result
  obtain ⟨-, found, -⟩ := leaves.command _ _ outcome
  refine ⟨setupCommand, result, rfl, ?_⟩
  have stands : (standardSuite.parse standardSuite.fresh ("init" :: flags)).1.find setupCommand =
      state := found
  have force : flags.any forceOption.hasSpelling = decide ("-f" ∈ flags ∨ "--force" ∈ flags) :=
    any_hasSpelling rfl flags
  have yes : flags.any yesOption.hasSpelling = decide ("-y" ∈ flags ∨ "--yes" ∈ flags) :=
    any_hasSpelling rfl flags
  rw [settingsOf, ← force, ← yes, ← given forceOption List.mem_cons_self,
    ← given yesOption (List.mem_cons_of_mem _ List.mem_cons_self), ← stands]
  rfl

/-- **The setup writes what the user wants.**  An invocation that comes to the setup and does not
fail says that it has saved the configuration exactly if what is there may be replaced and the user
chooses a configuration.  Then this is the one that has been written and is loaded; otherwise the
files are as they were.  The flags of the command line say how the setup is called. -/
theorem setup_saves_iff (project : Project) (hook : Hook) (queue : List Answer)
    (transport : Http.Transport) :
    let program := create project hook
    (∀ state args settings, program.SetsUp state args settings →
      let invocation := program.invoke state args ⟨⟨[], queue⟩, transport⟩
      let left := Setup.answersLeft project state.files settings queue
      invocation.result = .ok () →
        (Setup.savedEvent project ∈ invocation.events ↔
          Setup.MayReplace project state.files settings queue ∧
            ∃ config, Setup.Chooses settings left config) ∧
        (Setup.savedEvent project ∈ invocation.events →
          ∀ config, Setup.Chooses settings left config →
            invocation.state.files.entry project.file =
                some (.file (documentOctets config.toValue)) ∧
              load project invocation.state.files = .ok config) ∧
        (Setup.savedEvent project ∉ invocation.events → invocation.state.files = state.files)) ∧
    ∀ files flags, (∀ flag ∈ flags, flag ∈ ["-f", "--force", "-y", "--yes"]) →
      program.SetsUp (program.fresh files) ("init" :: flags) (settingsOf flags) := by
  intro program
  refine ⟨?_, fun files flags known => setsUp_flags project hook files known⟩
  intro state args settings setsUp invocation left ended
  have effects : effectsOf invocation = Setup.run project state.files settings ⟨[], queue⟩ :=
    setsUp.effectsOf_invoke ⟨⟨[], queue⟩, transport⟩
  have result : (Setup.run project state.files settings ⟨[], queue⟩).result = .ok () :=
    (congrArg Effects.result effects).symm.trans ended
  have events : invocation.events = (Setup.run project state.files settings ⟨[], queue⟩).events :=
    congrArg Effects.events effects
  have after : invocation.state.files =
      (Setup.run project state.files settings ⟨[], queue⟩).files := congrArg Effects.files effects
  rw [events, after]
  rcases Setup.run_queue project state.files settings queue result with
    ⟨config, may, chooses, told, stored⟩ | ⟨never, untold, same⟩
  · refine ⟨iff_of_true told ⟨may, config, chooses⟩, fun _ other chosen => ?_, (absurd told ·)⟩
    obtain rfl := chooses.unique chosen
    exact ⟨stored.file, stored.load⟩
  · exact ⟨iff_of_false untold never, (absurd · untold), fun _ => same⟩

/-- A configuration that is no JSON is replaced by what the user answers. -/
theorem setup_saves_iff_replacing :
    let project : Project := ⟨[], "/app"⟩
    let program := create project Hook.acceptAll
    let directory := (Tree.empty.put "app" [] .directory rfl fun _ => rfl).put ".key-cli" ["app"]
      .directory rfl fun _ => rfl
    let files := directory.put "config.json" [".key-cli", "app"] (.file []) rfl nofun
    let queue : List Answer := [.value (.bool true), .value .undefined, .value (.ofNat 5),
      .value (.string "debug")]
    let invocation := program.invoke (program.fresh files) ["init"] ⟨⟨[], queue⟩, Http.offline⟩
    invocation.result = .ok () ∧ Setup.savedEvent project ∈ invocation.events ∧
      load project invocation.state.files =
        .ok ⟨⟨defaultBaseUrl, 5, ClientConfig.default.isAddress, rfl⟩, .debug⟩ := by
  intro project program directory files queue invocation
  have ended : invocation.result = .ok () := by
    have done : invocation.result.isOk = true := by decide +kernel +zetaReduce
    cases result : invocation.result with
    | ok => rfl
    | error failure =>
      rw [result] at done
      cases done
  have chooses : Setup.Chooses (settingsOf [])
      (Setup.answersLeft project files (settingsOf []) queue)
      ⟨⟨defaultBaseUrl, 5, ClientConfig.default.isAddress, rfl⟩, .debug⟩ := by
    have present : project.isConfigured files = true := by decide +kernel +zetaReduce
    have left : Setup.answersLeft project files (settingsOf []) queue =
        [.value .undefined, .value (.ofNat 5), .value (.string "debug")] := by
      rw [Setup.answersLeft, Setup.asks, present]
      rfl
    rw [left]
    exact .inr ⟨rfl, rfl, rfl, .string "debug", rfl,
      Setup.levelOf_eq_iff.1 (Setup.levelOf_name .debug)⟩
  obtain ⟨saves, sets⟩ := setup_saves_iff project Hook.acceptAll queue Http.offline
  obtain ⟨written, holds, -⟩ :=
    saves _ _ _ (sets files [] (List.forall_mem_nil _)) ended
  have told := written.2 ⟨.inr (.inr rfl), _, chooses⟩
  exact ⟨ended, told, (holds told _ chooses).2⟩

end Program

end KeyClient
