import KeyClient.Program.Setup
import KeyClient.Proofs.Config.Saved

/-!
# Setting up

The setup writes one configuration, or changes nothing (`Setup.run_cases`).  Which one it writes is
said in terms of the sequence of answers: by `Setup.MayReplace` whether the user wants what is there
to be replaced, and by `Setup.Chooses` what the user chooses.
-/

namespace KeyClient

open KeyClient.Config KeyClient.Files

/-- The event concerns the console only. -/
def Event.IsShown : Event → Prop
  | .log _ | .setThreshold _ | .output .. | .notice .. => True
  | _ => False

/-! ## Answers -/

/-- What an answer from the queue, or its lack, says to a question with an initial value. -/
def Answer.to? (initial : Value) : Option Answer → Option Value
  | none | some (.value .undefined) => some initial
  | some (.value v) => some v
  | some .cancel => none

/-- Without answers given in advance, a question takes the first answer of the queue. -/
theorem Question.ask_queue (question : Question) (queue : List Answer) :
    question.ask ⟨[], queue⟩ = (Answer.to? question.initial queue[0]?, ⟨[], queue.tail⟩) := by
  have none : question.advance? ⟨[], queue⟩ = none := rfl
  unfold ask
  rw [none]
  dsimp only
  match queue with
  | [] => rfl
  | .value v :: rest => cases v <;> rfl
  | .cancel :: rest => rfl

theorem Answer.to?_ne_undefined {initial : Value} (present : initial ≠ .undefined)
    {answer : Option Answer} {v : Value} (h : Answer.to? initial answer = some v) :
    v ≠ .undefined := by
  unfold Answer.to? at h
  split at h
  · cases h
    exact present
  · cases h
    exact present
  · next given =>
    cases h
    exact given
  · cases h

namespace Setup

/-! ## What the user wants -/

/-- The user is asked before anything is replaced, unless it is forced. -/
def asks (project : Project) (files : Tree) (settings : Settings) : Bool :=
  project.isConfigured files && !settings.force

/-- Nothing is to be replaced, it is forced, or the user answers the question with `true`. -/
def MayReplace (project : Project) (files : Tree) (settings : Settings)
    (queue : List Answer) : Prop :=
  project.isConfigured files = false ∨ settings.force = true ∨
    Answer.to? (.bool false) queue[0]? = some (.bool true)

/-- The answers to the questions about the configuration. -/
def answersLeft (project : Project) (files : Tree) (settings : Settings)
    (queue : List Answer) : List Answer :=
  if asks project files settings then queue.tail else queue

/-- The user accepts the default configuration, or answers all three questions, the first two with
the address and the time limit of a configuration.  An answer that names no level stands for the
default one. -/
def Chooses (settings : Settings) (queue : List Answer) (config : Config) : Prop :=
  settings.acceptDefaults = true ∧ config = Config.default ∨
    settings.acceptDefaults = false ∧
      Answer.to? (.string defaultBaseUrl) queue[0]? = some (.string config.client.baseUrl) ∧
      Answer.to? (.ofNat defaultTimeout) queue[1]? = some (.ofNat config.client.timeoutMs) ∧
      ∃ level, Answer.to? (.ofNat 0) queue[2]? = some level ∧
        (∀ known : LogLevel, level = .string known.name → config.logLevel = known) ∧
        ((∀ known : LogLevel, level ≠ .string known.name) → config.logLevel = .info)

theorem mayWrite_queue (project : Project) (files : Tree) (settings : Settings)
    (queue : List Answer) :
    ((mayWrite project files settings ⟨[], queue⟩).1 = true ↔
        MayReplace project files settings queue) ∧
      (mayWrite project files settings ⟨[], queue⟩).2 =
        ⟨[], answersLeft project files settings queue⟩ := by
  unfold mayWrite answersLeft asks MayReplace
  cases present : project.isConfigured files with
  | false => simp
  | true =>
    cases force : settings.force with
    | true => simp
    | false =>
      have asked := Question.ask_queue overwriteQuestion queue
      have initial : overwriteQuestion.initial = .bool false := rfl
      rw [initial] at asked
      simp only [Bool.not_false, Bool.and_self, if_true, asked]
      -- A truthy answer other than `true` does not count.
      split
      · next same => simp_all
      · next differs => simp_all

/-- All three questions are answered. -/
theorem askAll_eq_some_iff {queue : List Answer} {answered : Answered} :
    askAll ⟨[], queue⟩ = some answered ↔
      Answer.to? (.string defaultBaseUrl) queue[0]? = some answered.baseUrl ∧
      Answer.to? (.ofNat defaultTimeout) queue[1]? = some answered.timeoutMs ∧
      Answer.to? (.ofNat 0) queue[2]? = some answered.logLevel := by
  have first := Question.ask_queue baseUrlQuestion queue
  have second := Question.ask_queue timeoutQuestion queue.tail
  have third := Question.ask_queue levelQuestion queue.tail.tail
  have initial : baseUrlQuestion.initial = .string defaultBaseUrl ∧
      timeoutQuestion.initial = .ofNat defaultTimeout ∧ levelQuestion.initial = .ofNat 0 :=
    ⟨rfl, rfl, rfl⟩
  simp only [initial, List.getElem?_tail] at first second third
  unfold askAll
  rw [first]
  cases Answer.to? (.string defaultBaseUrl) queue[0]? with
  | none => simp
  | some baseUrl =>
    dsimp only
    rw [second]
    cases Answer.to? (.ofNat defaultTimeout) queue[1]? with
    | none => simp
    | some timeoutMs =>
      dsimp only
      rw [third]
      cases Answer.to? (.ofNat 0) queue[2]? with
      | none => simp
      | some level => cases answered; simp

theorem levelOf_name (level : LogLevel) : levelOf (.string level.name) = level := by
  rw [levelOf, checkLevelName_eq_ok_iff.2 rfl]

theorem levelOf_of_unknown {v : Value} (unknown : ∀ level : LogLevel, v ≠ .string level.name) :
    levelOf v = .info := by
  unfold levelOf
  split
  · next level known => exact absurd (checkLevelName_eq_ok_iff.1 known) (unknown level)
  · rfl

theorem levelOf_eq_iff {v : Value} {level : LogLevel} :
    levelOf v = level ↔ (∀ known : LogLevel, v = .string known.name → level = known) ∧
      ((∀ known : LogLevel, v ≠ .string known.name) → level = .info) := by
  by_cases named : ∃ known : LogLevel, v = .string known.name
  · obtain ⟨known, rfl⟩ := named
    rw [levelOf_name]
    constructor
    · rintro rfl
      refine ⟨fun other same => ?_, fun unknown => absurd rfl (unknown known)⟩
      have found := LogLevel.ofName?_name known
      rw [Value.string.inj same, LogLevel.ofName?_name] at found
      exact (Option.some.inj found).symm
    · exact fun ⟨same, _⟩ => (same known rfl).symm
  · have unknown : ∀ known : LogLevel, v ≠ .string known.name := fun known same =>
      named ⟨known, same⟩
    rw [levelOf_of_unknown unknown]
    exact ⟨fun same => ⟨fun known h => absurd h (unknown known), fun _ => same.symm⟩,
      fun ⟨_, info⟩ => (info unknown).symm⟩

/-- Answers that are there make a configuration if they are its address and its time limit. -/
theorem configOf_eq_ok_iff {answered : Answered} (baseUrl : answered.baseUrl ≠ .undefined)
    (timeoutMs : answered.timeoutMs ≠ .undefined) {config : Config} :
    configOf answered = .ok config ↔ answered.baseUrl = .string config.client.baseUrl ∧
      answered.timeoutMs = .ofNat config.client.timeoutMs ∧
      levelOf answered.logLevel = config.logLevel := by
  have client (client : ClientConfig) :
      checkClient (.object [("baseUrl", answered.baseUrl), ("timeoutMs", answered.timeoutMs)]) =
        .ok client ↔
      answered.baseUrl = .string client.baseUrl ∧ answered.timeoutMs = .ofNat client.timeoutMs :=
    checkClient_eq_ok_iff baseUrl timeoutMs
  obtain ⟨configured, level⟩ := config
  rw [← and_assoc, ← client configured, configOf]
  cases checkClient (.object [("baseUrl", answered.baseUrl), ("timeoutMs", answered.timeoutMs)])
  · simp [Except.map]
  · simp [Except.map]

theorem choose_eq_ok_iff {settings : Settings} (asked : settings.acceptDefaults = false)
    {answers : Answers} {config : Config} :
    choose settings answers = .ok config ↔
      ∃ answered, askAll answers = some answered ∧ configOf answered = .ok config := by
  unfold choose
  rw [asked]
  cases askAll answers with
  | none => simp
  | some answered => simp [mapError_eq_ok_iff]

/-- What is written is what the user chooses. -/
theorem choose_queue {settings : Settings} {queue : List Answer} {config : Config} :
    choose settings ⟨[], queue⟩ = .ok config ↔ Chooses settings queue config := by
  cases accepted : settings.acceptDefaults with
  | true => simp [choose, Chooses, accepted, eq_comm]
  | false =>
    rw [choose_eq_ok_iff accepted, Chooses, accepted]
    constructor
    · rintro ⟨answered, asked, made⟩
      obtain ⟨first, second, third⟩ := askAll_eq_some_iff.1 asked
      have baseUrl := Answer.to?_ne_undefined (by simp) first
      have timeoutMs := Answer.to?_ne_undefined (by simp [Value.ofNat]) second
      obtain ⟨address, limit, level⟩ := (configOf_eq_ok_iff baseUrl timeoutMs).1 made
      exact .inr ⟨rfl, first.trans (congrArg some address), second.trans (congrArg some limit),
        answered.logLevel, third, levelOf_eq_iff.1 level⟩
    · rintro (⟨⟨⟩, -⟩ | ⟨-, first, second, level, third, known⟩)
      have made : configOf ⟨.string config.client.baseUrl, .ofNat config.client.timeoutMs, level⟩ =
          .ok config :=
        (configOf_eq_ok_iff (by simp) (by simp [Value.ofNat])).2
          ⟨rfl, rfl, levelOf_eq_iff.2 known⟩
      exact ⟨_, askAll_eq_some_iff.2 ⟨first, second, third⟩, made⟩

/-- The user chooses one configuration at most. -/
theorem Chooses.unique {settings : Settings} {queue : List Answer} {config other : Config}
    (h : Chooses settings queue config) (h' : Chooses settings queue other) : config = other := by
  have same := (choose_queue.2 h).symm.trans (choose_queue.2 h')
  exact Except.ok.inj same

/-! ## What the setup does -/

/-- The last event of a setup that has saved the configuration and says so. -/
def savedEvent (project : Project) : Event :=
  .notice [] s!"✔ Configuration saved to {project.file.path}\n"

/-- Either the configuration has been stored, or saving it has failed. -/
theorem save_cases (project : Project) (files : Tree) (config : Config) :
    (∃ later events, Stored project files later config ∧
      save project files config = .done later events ∧ savedEvent project ∈ events ∧
      ∀ event ∈ events, event.IsShown) ∨
    ∃ later events failure, save project files config = .failed later events failure ∧
      (∀ event ∈ events, event.IsShown) ∧ files.IsKept later project.directory ∧
      (project.file.Fits → later = files) := by
  unfold save
  dsimp only
  rcases Config.save_cases project files config.toValue with
    ⟨found, later, valid, saved, stored⟩ | ⟨later, error, failed, kept, unchanged⟩
  · rw [check_toValue] at valid
    cases valid
    rw [saved]
    refine .inl ⟨later, _, stored, rfl, ?_, ?_⟩
    · simp [savedEvent, saveEntries]
    · simp [Event.IsShown, saveEntries]
  · rw [failed]
    exact .inr ⟨later, _, error.toFailure, rfl, by simp [Event.IsShown], kept, unchanged⟩

/-- A configuration is chosen and saved, or nothing is done to the files. -/
theorem run_cases (project : Project) (files : Tree) (settings : Settings) (answers : Answers) :
    (∃ left config, mayWrite project files settings answers = (true, left) ∧
      choose settings left = .ok config ∧
      ∃ events, (∀ event ∈ events, event.IsShown) ∧
        run project files settings answers = .after events (save project files config)) ∨
    (∀ left config, mayWrite project files settings answers = (true, left) →
      choose settings left ≠ .ok config) ∧
      ∃ events, (∀ event ∈ events, ∃ entry, event = .log entry) ∧
        run project files settings answers = .done files events := by
  unfold run
  rcases allowed : mayWrite project files settings answers with ⟨may, left⟩
  cases may with
  | false =>
    have logged : ∀ event ∈ [.log (.header "key-cli: Setup"), cancelled],
        ∃ entry, event = .log entry :=
      List.forall_mem_cons.2 ⟨⟨_, rfl⟩, List.forall_mem_singleton.2 ⟨_, rfl⟩⟩
    refine .inr ⟨fun left' config same => ?_, _, logged, rfl⟩
    cases same
  | true =>
    dsimp only
    unfold chooseAndSave
    cases chosen : choose settings left with
    | error entries =>
      have logged : ∀ event ∈ .log (.header "key-cli: Setup") :: (entries.map .log ++ [cancelled]),
          ∃ entry, event = .log entry := by
        intro event mem
        simp only [List.mem_cons, List.mem_append, List.mem_map, List.not_mem_nil, or_false] at mem
        rcases mem with rfl | ⟨entry, -, rfl⟩ | rfl
        all_goals exact ⟨_, rfl⟩
      refine .inr ⟨fun left' config same => ?_, _, logged, rfl⟩
      cases same
      rw [chosen]
      intro same
      cases same
    | ok config =>
      have header : (Event.log (.header "key-cli: Setup")).IsShown := trivial
      exact .inl ⟨left, config, rfl, chosen, _, List.forall_mem_singleton.2 header, rfl⟩

/-- **What the setup does.**  If it ends without a failure, it has saved the configuration that the
user chooses, provided that what is there may be replaced; otherwise the files are as they were. -/
theorem run_queue (project : Project) (files : Tree) (settings : Settings) (queue : List Answer)
    (ended : (run project files settings ⟨[], queue⟩).result = .ok ()) :
    let effects := run project files settings ⟨[], queue⟩
    (∃ config, MayReplace project files settings queue ∧
      Chooses settings (answersLeft project files settings queue) config ∧
      savedEvent project ∈ effects.events ∧ Stored project files effects.files config) ∨
    (¬ (MayReplace project files settings queue ∧
        ∃ config, Chooses settings (answersLeft project files settings queue) config)) ∧
      savedEvent project ∉ effects.events ∧ effects.files = files := by
  intro effects
  obtain ⟨may, left⟩ := mayWrite_queue project files settings queue
  rcases run_cases project files settings ⟨[], queue⟩ with
    ⟨answers, config, allowed, chosen, events, -, done⟩ | ⟨never, events, logged, done⟩
  · rw [allowed] at may left
    obtain rfl : answers = _ := left
    rcases save_cases project files config with
      ⟨later, shown, stored, saved, told, -⟩ | ⟨later, shown, failure, failed, -⟩
    · have whole : effects = .after events (.done later shown) := done.trans (congrArg _ saved)
      refine .inl ⟨config, may.1 rfl, choose_queue.1 chosen, ?_, ?_⟩
      · rw [whole]
        exact List.mem_append_right events told
      · rw [whole]
        exact stored
    · rw [done, failed] at ended
      cases ended
  · have whole : effects = .done files events := done
    refine .inr ⟨?_, ?_, by rw [whole]; rfl⟩
    · rintro ⟨may', config, chooses⟩
      exact never _ config (Prod.ext (may.2 may') left) (choose_queue.2 chooses)
    · rw [whole]
      intro mem
      obtain ⟨entry, same⟩ := logged _ mem
      cases same

end Setup

end KeyClient
