import KeyClient.Http.Offline
import KeyClient.Program.Process

/-!
# The command line

Carries the program out in the working directory.  The file tree is that of the disk as far as
the configuration of the project is concerned; answers are read from the input line by line, an
empty line standing for no answer.  There is no network: requests are answered as if no server
could be reached.
-/

namespace KeyClient

open KeyClient.Files

/-- What is on the disk at a path: what is there and no file can only be a directory. -/
def entryOnDisk (path : String) : IO (Option Entry) := do
  try
    let octets ← IO.FS.readBinFile path
    return some (.file octets.toList)
  catch
    | .noFileOrDirectory .. => return none
    | _ => return some .directory

/-- The tree with what is on the disk at a place. -/
def withEntryOnDisk (tree : Tree) (place : Place) : IO Tree := do
  match ← entryOnDisk place.path with
  | some .directory => return (tree.makeDirectories place).tree
  | some (.file octets) => return (tree.write place octets).toOption.getD tree
  | none => return tree

/-- The tree with what is on the disk on the way to a place. -/
def treeOnDisk : Place → IO Tree
  | [] => return .empty
  | name :: parent => do withEntryOnDisk (← treeOnDisk parent) (name :: parent)

/-- Write what a tree has on the way to a place to the disk, if it was changed. -/
def store (old new : Tree) : Place → IO Unit
  | [] => return ()
  | name :: parent => do
    store old new parent
    if old.entry (name :: parent) ≠ new.entry (name :: parent) then
      match new.entry (name :: parent) with
      | some .directory => IO.FS.createDirAll (Place.path (name :: parent))
      | some (.file octets) =>
        IO.FS.writeBinFile (Place.path (name :: parent)) (ByteArray.mk octets.toArray)
      | none => return ()

/-- The answer that a line stands for. -/
def answerOfLine (line : String) : Answer :=
  match Text.trim line.toList with
  | [] => .value .undefined
  | cs => .value ((Json.read? cs).getD (.string (String.ofList cs)))

/-- As many answers as the program has questions at most; there is no answer after the end. -/
def readAnswers (stdin : IO.FS.Stream) : Nat → IO (List Answer)
  | 0 => return []
  | n + 1 => do
    let line ← stdin.getLine
    if line.isEmpty then return [.cancel]
    else return answerOfLine line :: (← readAnswers stdin n)

/-- The most questions that one invocation asks. -/
def mostQuestions : Nat := 4

end KeyClient

open KeyClient in
/-- Carry out the program. -/
def main (args : List String) : IO UInt32 := do
  let root := toString (← IO.currentDir)
  let project : Config.Project := ⟨[], root⟩
  let program := Program.create project Hook.acceptAll
  let tree ← treeOnDisk project.file
  let asks := args.contains Task.setUp.name
  let answers ← if asks then readAnswers (← IO.getStdin) mostQuestions else pure []
  let ended := program.runProcess tree args ⟨⟨[], answers⟩, Http.offline⟩ false
  store tree ended.files project.file
  (← IO.getStdout).putStr ended.output
  (← IO.getStderr).putStr ended.error
  return UInt32.ofNat ended.status
