import KeyClient.Proofs.Config.Errors
import KeyClient.Proofs.Program.Footprint
import KeyClient.Proofs.Program.Silence

/-!
# The configuration that is shown

The command that shows the configuration and the command for keys each resolve it from the files
and from the options of the root.  Words of the root in front of a command set their values and do
not change what the command makes of its own words (`Program.outcome_front`), so both resolve under
the same overrides (`Program.effects_show`, `Program.effects_keys`).  Either both fail in the same
way, or what is shown is read back as the configuration that the request is dispatched with
(`Program.shown_sent`).
-/

namespace KeyClient

open KeyClient.CommandLine KeyClient.CommandLine.Scan

namespace Text.Style

theorem wrapLines_nil (cs : List Char) : wrapLines [] cs = cs := by
  fun_induction wrapLines with
  | case1 => rfl
  | case2 cs ih => exact congrArg ('\r' :: '\n' :: ·) ih
  | case3 cs ih => exact congrArg ('\n' :: ·) ih
  | case4 c cs _ _ ih => exact congrArg (c :: ·) ih

/-- Without a style a text is written as it is. -/
theorem apply_nil (text : String) : apply [] text = text := by
  rw [apply, wrapLines_nil]
  simp [opening, closing, reopen]

end Text.Style

theorem Log.paint_nil (colors : Bool) (text : String) : paint colors [] text = text := by
  cases colors
  · rfl
  · exact Text.Style.apply_nil text

namespace Program

/-! ## Words in front of a command -/

/-- A word of the root in front of a command: any text as an address, or any text that is read as a
time limit. -/
inductive FrontWord where
  | baseUrl (url : String)
  | timeout (text : String) (limit : Number) (reads : parseTimeout (.string text) = .ok limit)

namespace FrontWord

/-- The word on the command line. -/
def text : FrontWord → String
  | baseUrl url => "--base-url=" ++ url
  | timeout text _ _ => "--timeout=" ++ text

/-- What the word sets. -/
def setting : FrontWord → String × Value
  | baseUrl url => (baseUrlOption.slot, .string url)
  | timeout _ limit _ => (timeoutOption.slot, .number limit)

end FrontWord

theorem step_frontWord (word : FrontWord) {scan : Scan} (single : scan.repeated = none)
    (rest : List String) :
    Scan.step standardSuite.context scan word.text rest =
      .next { scan with values := scan.values.set word.setting.1 word.setting.2 none } := by
  cases word with
  | baseUrl url => exact step_baseUrl url single rest
  | timeout text limit reads => exact step_timeout reads single rest

theorem grounded_frontWord (word : FrontWord) : word.setting.1 ≠ Ground.name := by
  cases word with
  | baseUrl url => exact grounded_root baseUrlOption (by simp)
  | timeout text limit reads => exact grounded_root timeoutOption (by simp)

/-- The values of the root after some words in front of a command. -/
def frontValues (front : List FrontWord) : OptionValues :=
  OptionValues.empty.setAll (front.map FrontWord.setting)

/-- No word in front of a command has everything logged. -/
theorem own?_verbose_front (front : List FrontWord) :
    (frontValues front).own? verboseOption.slot = none := by
  have other : ∀ word : FrontWord,
      (if word.setting.1 = verboseOption.slot then some word.setting.2 else none) =
        (none : Option Empty).map Empty.elim := by
    intro word
    cases word <;> rfl
  have last := OptionValues.own?_setAll_map grounded_frontWord other front
  rw [List.filterMap_none] at last
  exact last

/-- The words in front of a command do not change what it comes to, and set their values. -/
theorem outcome_front {name : String} {command : Command}
    (named : standardSuite.find? name = some command) (plain : isOptionLike name = false)
    {args : List String} (h : standardSuite.context.Ignores args) (front : List FrontWord) :
    standardSuite.outcome (front.map FrontWord.text ++ name :: args) =
        standardSuite.outcome (name :: args) ∧
      (standardSuite.route (CommandState.fresh rootCommand).values
        (front.map FrontWord.text ++ name :: args)).1 = frontValues front := by
  have root : (CommandState.fresh standardSuite.root).values = .empty := rfl
  have routed := route_settings (fun word => step_frontWord word) front .empty (name :: args)
  have kept := fun values => Suite.route_of_ignores named plain h values
  rw [kept] at routed
  constructor
  · rw [Suite.outcome, Suite.outcome, root, routed, kept]
  · exact congrArg Prod.fst routed

/-- The overrides that the values of the root make. -/
def frontOverrides (front : List FrontWord) : Config.Overrides where
  baseUrl := ((frontValues front).own? baseUrlOption.slot).getD .undefined
  timeoutMs := ((frontValues front).own? timeoutOption.slot).getD .undefined

/-! ## Showing -/

theorem find?_show : standardSuite.find? "config" = some showCommand := rfl

/-- What the command makes of no words, and of its option. -/
def showValues (pathOnly : Bool) : OptionValues :=
  if pathOnly then .set .empty pathOption.slot (.bool true) none else .empty

theorem parse_show {args : List String} {pathOnly : Bool}
    (h : args = [] ∧ pathOnly = false ∨ (args = ["-p"] ∨ args = ["--path"]) ∧ pathOnly = true) :
    showCommand.parse none (.fresh showCommand) [] args =
      (⟨showValues pathOnly, some .empty⟩, none) := by
  have prepared : (CommandState.fresh showCommand).prepare = ⟨.empty, some .empty⟩ := rfl
  have given : ∀ flag ∈ ["-p", "--path"],
      Scan.step (.ofCommand showCommand) (.start .empty) flag [] =
        .next (.start (showValues true)) := by
    simp only [List.forall_mem_cons]
    exact ⟨rfl, rfl, List.forall_mem_nil _⟩
  have scanned : Scan.run (.ofCommand showCommand) (.start .empty) args =
      (.start (showValues pathOnly), none) := by
    rcases h with ⟨rfl, rfl⟩ | ⟨rfl | rfl, rfl⟩
    · rw [Scan.run]
      rfl
    · rw [run_of_next (given "-p" (by simp)), Scan.run]
    · rw [run_of_next (given "--path" (by simp)), Scan.run]
  rw [Command.parse, prepared]
  dsimp only
  rw [scanned]
  rfl

/-- With words of the root in front, the configuration is shown under the overrides that they make,
or only the place of its file. -/
theorem effects_show (project : Config.Project) (hook : Hook) (files : Files.Tree)
    (front : List FrontWord) (surroundings : Surroundings) {args : List String} {pathOnly : Bool}
    (h : args = [] ∧ pathOnly = false ∨ (args = ["-p"] ∨ args = ["--path"]) ∧ pathOnly = true) :
    (create project hook).effects files (front.map FrontWord.text ++ "config" :: args)
        surroundings =
      Show.run project files pathOnly (frontOverrides front) := by
  have proper : (create project hook).suite.IsProper := isProper_standardSuite
  have ignores : standardSuite.context.Ignores args := by
    have apart : ∀ word ∈ args, isRootWord word = false := by
      rcases h with ⟨rfl, -⟩ | ⟨rfl | rfl, -⟩ <;> decide
    exact fun word mem =>
      not_takes_of_not_isRootWord (apart word ((List.takeWhile_prefix _).subset mem))
  have own := Suite.outcome_of_ignores find?_show rfl ignores
  rw [parse_show h] at own
  obtain ⟨same, values⟩ := outcome_front find?_show rfl ignores front
  obtain ⟨options, root, found, effects⟩ :=
    effects_of_outcome proper files surroundings (same.trans own) rfl
  have root : options.root.values = frontValues front := root.trans values
  have path : isGiven ⟨showValues pathOnly, some .empty⟩ pathOption = pathOnly := by
    cases pathOnly <;> rfl
  have foreign : ∀ spec ∈ [baseUrlOption, timeoutOption],
      (showValues pathOnly).own? spec.slot = none := by
    simp only [List.forall_mem_cons]
    cases pathOnly <;> exact ⟨rfl, rfl, List.forall_mem_nil _⟩
  have given : overrides options ⟨showValues pathOnly, some .empty⟩ = frontOverrides front := by
    rw [overrides, globalValue, globalValue, root, foreign baseUrlOption (by simp),
      foreign timeoutOption (by simp), Option.or_none, Option.or_none]
    rfl
  rw [effects]
  unfold carryOut
  dsimp only
  rw [found, path, given]
  rfl

theorem output_line (mode : ConsoleMode) (threshold : Threshold) (text : String) :
    (Console.run mode (.blank threshold) [.line text]).output = text ++ "\n" := by
  change "" ++ Log.paint mode.colors [] (text ++ "\n") = _
  rw [Log.paint_nil, String.empty_append]

/-- What is logged on the way is not on the output. -/
theorem output_shown (project : Config.Project) (files : Files.Tree) (config : Config)
    (mode : ConsoleMode) (threshold : Threshold) :
    (Console.run mode (.blank threshold) ((Config.loadEntries project files).map .log ++
        Show.shown project files config)).output =
      Log.paint mode.colors .gray (Show.sourceLine project files) ++ "\n\n" ++
        (Json.pretty config.toValue ++ "\n") := by
  let logs := (Config.loadEntries project files).map Event.log ++
    [.log (.header "Current Configuration")]
  let console := Console.run mode (.blank threshold) logs
  have silent : ∀ event ∈ logs, event.isPrinted = false := by
    simp [logs, Event.isPrinted, or_imp, forall_and]
  have before : console.output = "" := Console.output_run_of_not_isPrinted mode silent _
  have behind : Show.shown project files config = .log (.header "Current Configuration") ::
      [.output .gray (Show.sourceLine project files), .output [] "\n\n",
        .line (Json.pretty config.toValue)] := rfl
  rw [behind, List.append_cons, Console.run, List.foldl_append]
  change console.output ++ Log.paint mode.colors .gray (Show.sourceLine project files) ++
    Log.paint mode.colors [] "\n\n" ++
    Log.paint mode.colors [] (Json.pretty config.toValue ++ "\n") = _
  rw [before, Log.paint_nil, Log.paint_nil, String.empty_append]

/-! ## Sending -/

/-- With the same words in front, the command for keys resolves the configuration under the same
overrides. -/
theorem effects_keys (project : Config.Project) (hook : Hook) (files : Files.Tree)
    (front : List FrontWord) (surroundings : Surroundings) {args : List String}
    {words : List KeyWord} (spells : Spells words args)
    (apart : ∀ word ∈ args.takeWhile (· ≠ "--"), isRootWord word = false) :
    let sent := (create project hook).effects files
      (front.map FrontWord.text ++ "key-get" :: args) surroundings
    (∀ error, Config.resolve project files (frontOverrides front) = .error error →
      sent = .after ((Config.loadEntries project files).map .log)
        (.failed files [] (.app error.toError))) ∧
    ∀ config, Config.resolve project files (frontOverrides front) = .ok config →
      sent = (create project hook).dispatched files config (matchesFor (KeyWord.request words))
        surroundings.transport := by
  intro sent
  have proper : (create project hook).suite.IsProper := isProper_standardSuite
  have ignores : standardSuite.context.Ignores args :=
    fun word mem => not_takes_of_not_isRootWord (apart word mem)
  have own : standardSuite.outcome ("key-get" :: args) =
      .ok (operationCommand .keyGet, keyState words) := by
    have own := Suite.outcome_of_ignores find?_keys isOptionLike_keys ignores
    rwa [show (operationCommand .keyGet).parse none (.fresh _) [] args = _ from
      keysAlone_of_spells spells] at own
  obtain ⟨same, values⟩ := outcome_front find?_keys isOptionLike_keys ignores front
  obtain ⟨options, root, effects⟩ :=
    effects_of_outcome_ok proper files surroundings (same.trans own) rfl
  have root : options.root.values = frontValues front := root.trans values
  have reached := reached_keyState words
  have given : overrides options ((keyState words).take (operationCommand .keyGet)).2 =
      frontOverrides front := by
    rw [overrides, globalValue_take reached baseUrlOption (by simp),
      globalValue_take reached timeoutOption (by simp), root]
    rfl
  have quiet : ∀ config, thresholdOf options
      ((keyState words).take (operationCommand .keyGet)).2 config =
        .ofLevel config.logLevel := by
    intro config
    rw [thresholdOf, globalValue_take reached verboseOption (by simp), root,
      own?_verbose_front]
    rfl
  have sends : sent = _ := effects
  rw [matchesOf_keyWords] at sends
  refine ⟨fun error resolved => ?_, fun config resolved => ?_⟩
  · exact sends.trans (send_of_resolve_error (given ▸ resolved) _ _)
  · exact sends.trans (send_eq_dispatched (given ▸ resolved) (quiet config) _ _)

/-- The only client of a dispatch is the one for the configuration. -/
theorem client_mem_dispatched (program : Program) (files : Files.Tree) (config : Config)
    (m : Matches) (transport : Http.Transport) {client : Config} :
    .client client ∈ (program.dispatched files config m transport).events ↔
      client = config := by
  obtain ⟨-, clientless⟩ :=
    Dispatch.run_confined (clientOf config.client) program.hook transport m
  simp [dispatched, Effects.after, clientless]

/-! ## Comparing the two -/

section

variable (project : Config.Project) (hook : Hook) (files : Files.Tree) (front : List FrontWord)
  (surroundings : Surroundings)

/-- Showing fails as resolving the configuration does, and shows the one that counts. -/
theorem show_of_resolve :
    let shown :=
      (create project hook).effects files (front.map FrontWord.text ++ ["config"]) surroundings
    (∀ error, Config.resolve project files (frontOverrides front) = .error error →
      shown = .after ((Config.loadEntries project files).map .log)
        (.failed files [] (.app error.toError))) ∧
    ∀ config, Config.resolve project files (frontOverrides front) = .ok config →
      shown = .after ((Config.loadEntries project files).map .log)
        (.done files (Show.shown project files config)) := by
  intro shown
  have shows : shown = Show.run project files false (frontOverrides front) :=
    effects_show project hook files front surroundings (.inl ⟨rfl, rfl⟩)
  rw [Show.run] at shows
  refine ⟨fun error resolved => ?_, fun config resolved => ?_⟩
  · rw [shows, resolved]
    rfl
  · rw [shows, resolved]
    rfl

/-- Showing fails with an error about the configuration, or there is a configuration. -/
theorem cases_of_show :
    let shown :=
      (create project hook).effects files (front.map FrontWord.text ++ ["config"]) surroundings
    (∀ failure, shown.result = .error failure → failure.IsConfig) ∧
      (shown.result = .ok () →
        ∃ config, Config.resolve project files (frontOverrides front) = .ok config) := by
  intro shown
  obtain ⟨refuses, shows⟩ := show_of_resolve project hook files front surroundings
  cases resolved : Config.resolve project files (frontOverrides front) with
  | error error =>
    have failed : shown.result = .error (.app error.toError) :=
      congrArg Effects.result (refuses error resolved)
    refine ⟨fun failure fails => ?_, fun done => ?_⟩
    · cases failed.symm.trans fails
      exact Config.isConfig_of_resolve resolved
    · cases failed.symm.trans done
  | ok config =>
    have done : shown.result = .ok () := congrArg Effects.result (shows config resolved)
    refine ⟨fun failure fails => ?_, fun _ => ⟨config, rfl⟩⟩
    cases done.symm.trans fails

/-- Showing fails as sending does, if that fails before there is a client. -/
theorem result_show_eq_error_iff {args : List String} {words : List KeyWord}
    (spells : Spells words args)
    (apart : ∀ word ∈ args.takeWhile (· ≠ "--"), isRootWord word = false) (failure : Failure) :
    let run := fun rest =>
      (create project hook).effects files (front.map FrontWord.text ++ rest) surroundings
    (run ["config"]).result = .error failure ↔
      (run ("key-get" :: args)).result = .error failure ∧
        ∀ client, .client client ∉ (run ("key-get" :: args)).events := by
  intro run
  obtain ⟨refuses, shows⟩ := show_of_resolve project hook files front surroundings
  obtain ⟨fails, sends⟩ := effects_keys project hook files front surroundings spells apart
  cases resolved : Config.resolve project files (frontOverrides front) with
  | error error =>
    have same : run ["config"] = run ("key-get" :: args) :=
      (refuses error resolved).trans (fails error resolved).symm
    have clientless : ∀ client, .client client ∉ (run ("key-get" :: args)).events := by
      have sent : run ("key-get" :: args) = _ := fails error resolved
      simp [sent, Effects.after, Effects.failed]
    rw [same]
    exact (and_iff_left clientless).symm
  | ok config =>
    have done : (run ["config"]).result = .ok () := congrArg Effects.result (shows config resolved)
    have made : .client config ∈ (run ("key-get" :: args)).events := by
      have sent : run ("key-get" :: args) = _ := sends config resolved
      rw [sent]
      exact (client_mem_dispatched _ _ config _ _).2 rfl
    rw [done]
    refine iff_of_false (fun failed => ?_) fun failed => failed.2 config made
    cases failed

/-- Asked for the place of the file only, the command shows that. -/
theorem effects_place {flag : String} (mem : flag ∈ ["-p", "--path"]) :
    (create project hook).effects files (front.map FrontWord.text ++ ["config", flag])
        surroundings =
      .done files [.line project.file.path] :=
  effects_show project hook files front surroundings (.inr ⟨by simpa using mem, rfl⟩)

/-- **What is shown is what is used.**  Words of the root in front of a command mean the same to the
command that shows the configuration and to the command for keys.  The one fails if and only if the
other fails before it has a client, with the same error about the configuration.  Otherwise what is
shown is read back as the configuration that the request is dispatched with, and the client is made
for it.  Asked for its place only, the command shows that, whatever the files are. -/
theorem shown_sent {args : List String} {words : List KeyWord} (spells : Spells words args)
    (apart : ∀ word ∈ args.takeWhile (· ≠ "--"), isRootWord word = false) :
    let program := create project hook
    let run := fun rest =>
      program.effects files (front.map FrontWord.text ++ rest) surroundings
    let output := fun (effects : Effects) (mode : ConsoleMode) (threshold : Threshold) =>
      (Console.run mode (.blank threshold) effects.events).output
    let shown := run ["config"]
    let sent := run ("key-get" :: args)
    (∀ failure, shown.result = .error failure ↔
      sent.result = .error failure ∧ ∀ client, .client client ∉ sent.events) ∧
    (∀ failure, shown.result = .error failure → failure.IsConfig) ∧
    (shown.result = .ok () → ∃ config text,
      Config.resolve project files (frontOverrides front) = .ok config ∧
      (∀ mode threshold, output shown mode threshold =
        Log.paint mode.colors .gray (Show.sourceLine project files) ++ "\n\n" ++ text) ∧
      Json.read? text.toList = some config.toValue ∧
      sent = program.dispatched files config (matchesFor (KeyWord.request words))
        surroundings.transport ∧
      ∀ client, .client client ∈ sent.events ↔ client = config) ∧
    ∀ flag ∈ ["-p", "--path"],
      let placed := run ["config", flag]
      placed.result = .ok () ∧ placed.files = files ∧
        ∀ mode threshold, output placed mode threshold = project.file.path ++ "\n" := by
  intro program run output shown sent
  obtain ⟨isConfig, resolves⟩ := cases_of_show project hook files front surroundings
  refine ⟨result_show_eq_error_iff project hook files front surroundings spells apart, isConfig,
    fun done => ?_, fun flag mem => ?_⟩
  · obtain ⟨config, resolved⟩ := resolves done
    have shows : shown = _ :=
      (show_of_resolve project hook files front surroundings).2 config resolved
    have sends : sent = _ :=
      (effects_keys project hook files front surroundings spells apart).2 config resolved
    refine ⟨config, Json.pretty config.toValue ++ "\n", resolved, fun mode threshold => ?_, ?_,
      sends, fun client => sends ▸ client_mem_dispatched program files config _ _⟩
    · simp only [output, shows]
      exact output_shown project files config mode threshold
    · rw [String.toList_append]
      exact Config.read?_pretty_toValue config
  · have place : run ["config", flag] = .done files [.line project.file.path] :=
      effects_place project hook files front surroundings mem
    refine ⟨congrArg Effects.result place, congrArg Effects.files place, fun mode threshold => ?_⟩
    simp only [output, place]
    exact output_line mode threshold project.file.path

end

/-- A limit in hexadecimal digits is shown and used, and one that is too long is refused twice. -/
theorem shown_sent_hexadecimal :
    let program := create ⟨[], "/app"⟩ Hook.acceptAll
    let surroundings : Surroundings := ⟨⟨[], []⟩, Http.offline⟩
    let shown := fun word => program.effects .empty [word, "config"] surroundings
    let sent := fun word => program.effects .empty [word, "key-get", "--key=true"] surroundings
    (∃ (config : Config) (text : String), config.client.timeoutMs = 16 ∧
      .client config ∈ (sent "--timeout=0x10").events ∧
      Json.read? text.toList = some config.toValue ∧
      ∀ threshold,
        (Console.run ⟨false, true⟩ (.blank threshold) (shown "--timeout=0x10").events).output =
          "No config file; showing defaults" ++ "\n\n" ++ text) ∧
    ∃ failure : Failure, failure.IsConfig ∧ (shown "--timeout=1000000").result = .error failure ∧
      (sent "--timeout=1000000").result = .error failure := by
  intro program surroundings shown sent
  have fitting : parseTimeout (.string "0x10") = .ok (.integer 16) := by decide +kernel
  have long : parseTimeout (.string "1000000") = .ok (.integer 1000000) := by decide +kernel
  have spells : Spells [.key true] ["--key=true"] := .setting (.keyJoined true) .nothing
  have resolved : (Config.resolve program.project .empty ⟨.undefined, .number (.integer 16)⟩
      ).toOption.map (·.client.timeoutMs) = some 16 := by decide +kernel
  have refused : (Config.resolve program.project .empty ⟨.undefined, .number (.integer 1000000)⟩
      ).toOption.isNone = true := by decide +kernel
  constructor
  · let front : List FrontWord := [.timeout "0x10" (.integer 16) fitting]
    obtain ⟨-, -, reads, -⟩ := shown_sent program.project program.hook .empty front surroundings
      spells (by decide)
    obtain ⟨-, shows⟩ := show_of_resolve program.project program.hook .empty front surroundings
    have resolved : (Config.resolve program.project .empty (frontOverrides front)).toOption.map
      (·.client.timeoutMs) = some 16 := resolved
    cases found : Config.resolve program.project .empty (frontOverrides front) with
    | error error =>
      rw [found] at resolved
      cases resolved
    | ok counting =>
      obtain ⟨config, text, same, output, read, -, clients⟩ :=
        reads (congrArg Effects.result (shows counting found))
      rw [same] at resolved
      exact ⟨config, text, Option.some.inj resolved, (clients _).2 rfl, read,
        output ⟨false, true⟩⟩
  · let front : List FrontWord := [.timeout "1000000" (.integer 1000000) long]
    obtain ⟨fails, isConfig, -⟩ := shown_sent program.project program.hook .empty front surroundings
      spells (by decide)
    obtain ⟨refuses, -⟩ := show_of_resolve program.project program.hook .empty front surroundings
    have refused : (Config.resolve program.project .empty
      (frontOverrides front)).toOption.isNone = true := refused
    cases found : Config.resolve program.project .empty (frontOverrides front) with
    | error error =>
      have failed := congrArg Effects.result (refuses error found)
      exact ⟨_, isConfig _ failed, failed, ((fails _).1 failed).1⟩
    | ok config =>
      rw [found] at refused
      cases refused

end Program

end KeyClient
