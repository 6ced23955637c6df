import KeyClient.Program.Effects

/-!
# Showing the configuration

The configuration that counts is shown as JSON, below a line that says where it comes from; or
only the place of its file is shown.
-/

namespace KeyClient.Show

open KeyClient.Config

/-- The line that says where the configuration comes from. -/
def sourceLine (project : Project) (files : Files.Tree) : String :=
  if project.isConfigured files then s!"File: {project.file.path}"
  else "No config file; showing defaults"

/-- Show a configuration. -/
def shown (project : Project) (files : Files.Tree) (config : Config) : List Event :=
  [.log (.header "Current Configuration"), .output .gray (sourceLine project files),
    .output [] "\n\n", .line (Json.pretty config.toValue)]

/-- Show the place of the file, or the configuration that counts. -/
def run (project : Project) (files : Files.Tree) (pathOnly : Bool) (overrides : Overrides) :
    Effects :=
  if pathOnly then .done files [.line project.file.path]
  else
    .after ((loadEntries project files).map .log) <|
      match resolve project files overrides with
      | .error error => .failed files [] (.app error.toError)
      | .ok config => .done files (shown project files config)

end KeyClient.Show
