import KeyClient.Config.Store
import KeyClient.Event

/-!
# Effects

What carrying out a command does: events, a new file tree, and a failure if it comes to one.
-/

namespace KeyClient

/-- The effects of a command. -/
structure Effects where
  events : List Event
  files : Files.Tree
  result : Except Failure Unit

namespace Effects

/-- Events, and the files as they are then. -/
def done (files : Files.Tree) (events : List Event) : Effects := ⟨events, files, .ok ()⟩

/-- Events up to a failure, and the files as they are then. -/
def failed (files : Files.Tree) (events : List Event) (failure : Failure) : Effects :=
  ⟨events, files, .error failure⟩

/-- Effects with events before them. -/
def after (events : List Event) (effects : Effects) : Effects :=
  { effects with events := events ++ effects.events }

end Effects

end KeyClient
