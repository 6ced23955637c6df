import KeyClient.Console
import KeyClient.Program.Basic

/-!
# The program as a process

As a process the program carries out one invocation.  A command line that is not carried out ends
it with the exit status of its error; any other failure is logged and gives the status 1.
-/

namespace KeyClient.Program

/-- A process that has ended. -/
structure Ended where
  status : Nat
  output : String
  error : String
  files : Files.Tree

/-- The exit status of a failure. -/
def exitStatus : Failure → Nat
  | .usage error => error.exitCode
  | _ => 1

/-- What is logged about a failure; errors in the arguments have been written already. -/
def failureEntries : Failure → List Log.Entry
  | .usage _ => []
  | failure => [.message .error failure.message []]

/-- The events of a process: those of the invocation, and what is logged about its failure. -/
def processEvents (invocation : Invocation) : List Event :=
  invocation.events ++
    match invocation.result with
    | .ok _ => []
    | .error failure => (failureEntries failure).map .log

/-- The program as a process with the given arguments. -/
def runProcess (program : Program) (files : Files.Tree) (args : List String)
    (surroundings : Surroundings) (colors : Bool) : Ended :=
  let invocation := program.invoke (program.fresh files) args surroundings
  let console := Console.run ⟨colors, true⟩ (.blank .initial) (processEvents invocation)
  { status := match invocation.result with
      | .ok _ => 0
      | .error failure => exitStatus failure
    output := console.output
    error := console.error
    files := invocation.state.files }

end KeyClient.Program
