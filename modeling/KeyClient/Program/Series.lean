import KeyClient.Console
import KeyClient.Program.Basic

/-!
# Invocations one after another

One program may be invoked again and again.  What an invocation finds is the state that the one
before it left and the threshold of the console; `Program.call` is one invocation with what the
console shows of it, and `Program.after` is what a list of invocations leaves.
-/

namespace KeyClient.Program

/-- An invocation to be made: its arguments, and what the user and the network add to it. -/
structure Call where
  args : List String
  surroundings : Surroundings

/-- What an invocation finds. -/
structure Standing where
  state : ProgramState
  threshold : Threshold

/-- One invocation, and the console that shows it. -/
def call (program : Program) (mode : ConsoleMode) (standing : Standing) (call : Call) :
    Invocation × Console :=
  let invocation := program.invoke standing.state call.args call.surroundings
  (invocation, Console.run mode (.blank standing.threshold) invocation.events)

/-- What one invocation leaves. -/
def next (program : Program) (mode : ConsoleMode) (standing : Standing) (call : Call) : Standing :=
  let (invocation, console) := program.call mode standing call
  ⟨invocation.state, console.threshold⟩

/-- What a list of invocations leaves. -/
def after (program : Program) (mode : ConsoleMode) (standing : Standing) (calls : List Call) :
    Standing :=
  calls.foldl (program.next mode) standing

end KeyClient.Program
