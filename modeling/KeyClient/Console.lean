import KeyClient.Event

/-!
# Consoles

What is seen of events: the texts on the output and the error output.  Entries less severe than
the threshold are left out; it changes on the way.
-/

namespace KeyClient

/-- What a console has shown, and the threshold for what comes next. -/
structure Console where
  threshold : Threshold
  output : String
  error : String
deriving Repr

/-- How a console shows things: in colors or not, and whether reports go to the output. -/
structure ConsoleMode where
  colors : Bool
  showsReports : Bool
deriving DecidableEq, Repr

namespace Console

/-- A console that has shown nothing. -/
def blank (threshold : Threshold) : Console := ⟨threshold, "", ""⟩

/-- A log entry, if it is severe enough. -/
def logged (mode : ConsoleMode) (console : Console) (entry : Log.Entry) : Console :=
  if console.threshold.admits entry.severity then
    { console with error := console.error ++ entry.block mode.colors }
  else console

/-- One event. -/
def step (mode : ConsoleMode) (console : Console) : Event → Console
  | .log entry => console.logged mode entry
  | .setThreshold threshold => { console with threshold := threshold }
  | .output style text =>
    { console with output := console.output ++ Log.paint mode.colors style text }
  | .notice style text =>
    { console with error := console.error ++ Log.paint mode.colors style text }
  | .report text =>
    if mode.showsReports then { console with output := console.output ++ text ++ "\n" }
    else console
  | .client _ | .consult _ _ | .note _ | .get _ _ | .send _ => console

/-- What is logged goes to the error output if the threshold admits it, and nowhere else. -/
theorem step_log (mode : ConsoleMode) (console : Console) (entry : Log.Entry) :
    console.step mode (.log entry) =
      { console with
        error := console.error ++
          if console.threshold.admits entry.severity then entry.block mode.colors else "" } := by
  rw [step, logged]
  split
  · rfl
  · rw [String.append_empty]

/-- All events. -/
def run (mode : ConsoleMode) (console : Console) (events : List Event) : Console :=
  events.foldl (step mode) console

end Console

end KeyClient
