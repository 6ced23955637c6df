import KeyClient.Program.Effects
import KeyClient.Program.Prompt

/-!
# Setting up a project

The setup writes the configuration of a project: the default one, or one from the answers to
three questions.  It asks before it overwrites anything, and it ends without a change if the user
cancels or an answer makes no configuration.
-/

namespace KeyClient.Setup

open KeyClient.Config

/-- How the setup was called. -/
structure Settings where
  force : Bool
  acceptDefaults : Bool
deriving DecidableEq, Repr

/-- Whether a configuration may be overwritten. -/
def overwriteQuestion : Question := ⟨"overwrite", .bool false, fun _ => true⟩

/-- Where requests are sent. -/
def baseUrlQuestion : Question where
  name := "baseUrl"
  initial := .string defaultBaseUrl
  accepts := fun v => (checkBaseUrl v).isOk

/-- How long answers are waited for. -/
def timeoutQuestion : Question := ⟨"timeoutMs", .ofNat defaultTimeout, fun _ => true⟩

/-- What is logged. -/
def levelQuestion : Question := ⟨"logLevel", .ofNat 0, fun _ => true⟩

/-- The answers to the three questions. -/
structure Answered where
  baseUrl : Value
  timeoutMs : Value
  logLevel : Value
deriving Repr

/-- Ask the three questions, unless the user cancels. -/
def askAll (answers : Answers) : Option Answered :=
  match baseUrlQuestion.ask answers with
  | (none, _) => none
  | (some baseUrl, answers) =>
    match timeoutQuestion.ask answers with
    | (none, _) => none
    | (some timeoutMs, answers) =>
      match levelQuestion.ask answers with
      | (none, _) => none
      | (some logLevel, _) => some ⟨baseUrl, timeoutMs, logLevel⟩

/-- The level that was answered, or else the default one. -/
def levelOf (v : Value) : LogLevel :=
  match checkLevelName v with
  | .ok level => level
  | .error _ => Config.default.logLevel

/-- The configuration that the answers make. -/
def configOf (answered : Answered) : Checked Config :=
  (checkClient (.object [("baseUrl", answered.baseUrl), ("timeoutMs", answered.timeoutMs)])).map
    fun client => ⟨client, levelOf answered.logLevel⟩

/-- What is logged about answers that make no configuration. -/
def issuesEntry (issues : List Issue) : Log.Entry :=
  .message .error ("; ".intercalate (issues.map Issue.message)) []

/-- The configuration to be written, and what is logged if there is none. -/
def choose (settings : Settings) (answers : Answers) : Except (List Log.Entry) Config :=
  if settings.acceptDefaults then .ok Config.default
  else
    match askAll answers with
    | none => .error []
    | some answered => (configOf answered).mapError fun issues => [issuesEntry issues]

/-- What is logged when the setup ends without a change. -/
def cancelled : Event := .log (.message .info "Setup cancelled." [])

/-- The last hint. -/
def hint : String := "  Run \"key-cli key-get --help\" to see the request flags."

/-- Write a configuration. -/
def save (project : Project) (files : Files.Tree) (config : Config) : Effects :=
  let saving := Event.notice [] "- Saving configuration...\n"
  let change := Config.save project files config.toValue
  match change.result with
  | .error error => .failed change.tree [saving] error.toFailure
  | .ok () =>
    .done change.tree <|
      saving :: (saveEntries project).map .log ++
        [.notice [] s!"✔ Configuration saved to {project.file.path}\n",
          .log (.message .success "Setup complete!" []),
          .notice .gray hint, .notice [] "\n"]

/-- Choose a configuration and write it. -/
def chooseAndSave (project : Project) (files : Files.Tree) (settings : Settings)
    (answers : Answers) : Effects :=
  match choose settings answers with
  | .error entries => .done files (entries.map .log ++ [cancelled])
  | .ok config => save project files config

/-- Whether to go on, and the answers left: what is there is overwritten only if the user wants
it. -/
def mayWrite (project : Project) (files : Files.Tree) (settings : Settings) (answers : Answers) :
    Bool × Answers :=
  if project.isConfigured files && !settings.force then
    match overwriteQuestion.ask answers with
    | (some (.bool true), answers) => (true, answers)
    | (_, answers) => (false, answers)
  else (true, answers)

/-- The whole setup. -/
def run (project : Project) (files : Files.Tree) (settings : Settings) (answers : Answers) :
    Effects :=
  .after [.log (.header "key-cli: Setup")] <|
    match mayWrite project files settings answers with
    | (true, answers) => chooseAndSave project files settings answers
    | (false, _) => .done files [cancelled]

end KeyClient.Setup
