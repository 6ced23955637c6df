import KeyClient.Config.Draft
import KeyClient.Files.Document
import KeyClient.Log.Entry

/-!
# Stored configurations

Every project keeps its configuration in one file below its root directory.  `load` reads it,
`save` writes it and `resolve` finds the configuration that counts for an invocation: the stored
one, or the default one if nothing is stored, with the overrides of the invocation over it.
-/

namespace KeyClient.Config

open KeyClient.Files

/-- A project: its root directory as it was given, seen from the working directory. -/
structure Project where
  base : Place
  root : String
deriving DecidableEq, Repr

namespace Project

/-- The name of the directory with the configuration. -/
def directoryName : String := ".key-cli"

/-- The name of the file with the configuration. -/
def fileName : String := "config.json"

/-- The root directory. -/
def place (project : Project) : Place := Place.resolve project.base project.root

/-- The directory with the configuration. -/
def directory (project : Project) : Place := directoryName :: project.place

/-- The file with the configuration. -/
def file (project : Project) : Place := fileName :: project.directory

/-- Whether there is something at the place of the file. -/
def isConfigured (project : Project) (tree : Tree) : Bool := tree.has project.file

end Project

/-- Why there is no valid configuration. -/
inductive ConfigError where
  | absent (file : Place) (root : String)
  | document (error : DocumentError)
  | invalidFile (file : Place) (issues : List Issue)
  | unsavable (issues : List Issue)
  | invalidOverrides (issues : List Issue)
deriving Repr

/-- The error with its message and context. -/
def ConfigError.toError : ConfigError → AppError
  | absent file root =>
    .config "No configuration found. Run \"key-cli init\" first."
      (.object [("configPath", .string file.path), ("projectRoot", .string root)])
  | document error => error.toError
  | invalidFile file issues =>
    .config s!"Invalid configuration file:\n{issueLines issues}"
      (.object [("configPath", .string file.path), ("issues", issuesValue issues)])
  | unsavable issues =>
    .config s!"Cannot save invalid configuration:\n{issueLines issues}"
      (.object [("issues", issuesValue issues)])
  | invalidOverrides issues =>
    .config s!"Invalid command-line configuration:\n{issueLines issues}"
      (.object [("issues", issuesValue issues)])

/-- The configuration in the file. -/
def load (project : Project) (tree : Tree) : Except ConfigError Config :=
  if project.isConfigured tree then
    match readDocument tree project.file with
    | .error error => .error (.document error)
    | .ok value => (check value).mapError (.invalidFile project.file)
  else .error (.absent project.file project.root)

/-- What is logged when the configuration in the file is read. -/
def loadEntries (project : Project) (tree : Tree) : List Log.Entry :=
  if project.isConfigured tree then [.debug s!"Loading config from {project.file.path}" []] else []

/-- Why a configuration cannot be saved. -/
inductive SaveError where
  | config (error : ConfigError)
  | path (error : PathError)
deriving Repr

/-- The failure of saving. -/
def SaveError.toFailure : SaveError → Failure
  | config error => .app error.toError
  | path error => error.toFailure

/-- The tree with a value as the configuration in the file, if it is one. -/
def save (project : Project) (tree : Tree) (value : Value) : Tree.Change SaveError :=
  match check value with
  | .error issues => .failed tree (.config (.unsavable issues))
  | .ok config =>
    ((ensureDirectory tree project.directory).mapError .path).andThen fun tree =>
      (writeDocument tree project.file config.toValue).mapError fun error =>
        .config (.document error)

/-- What is logged when a configuration has been saved. -/
def saveEntries (project : Project) : List Log.Entry :=
  [.debug s!"Config saved to {project.file.path}" []]

/-- Values that an invocation sets in place of stored ones. -/
structure Overrides where
  baseUrl : Value
  timeoutMs : Value
deriving Repr

/-- The overrides as a draft. -/
def Overrides.draft (overrides : Overrides) : Draft :=
  { Draft.empty with baseUrl := overrides.baseUrl, timeoutMs := overrides.timeoutMs }

/-- The configuration that overrides are laid over. -/
def base (project : Project) (tree : Tree) : Except ConfigError Config :=
  if project.isConfigured tree then load project tree else .ok default

/-- The configuration of an invocation. -/
def resolve (project : Project) (tree : Tree) (overrides : Overrides) : Except ConfigError Config :=
  match base project tree with
  | .error error => .error error
  | .ok config => ((Draft.ofConfig config).merge overrides.draft).check.mapError .invalidOverrides

end KeyClient.Config
