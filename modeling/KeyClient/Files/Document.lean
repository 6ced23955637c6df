import KeyClient.Failure
import KeyClient.Json.Reader
import KeyClient.Json.Writer
import KeyClient.Text.Utf8
import KeyClient.Value.Display

/-!
# JSON documents

Files that hold one value each.  `readDocument` and `writeDocument` name the file in every error;
writing makes the directories that are missing.
-/

namespace KeyClient.Files

/-- Why a path cannot be used. -/
inductive PathError where
  | system (error : SystemError)
  | hasNul (path : String)
deriving DecidableEq, Repr

namespace PathError

/-- How much is shown of a path that holds the character that ends every path. -/
def mostShown : Nat := 128

/-- A path as it is shown. -/
def shown (path : String) : String :=
  let whole := (Value.string path).display .full
  if mostShown < Text.width whole.toList then
    String.ofList (Text.takeUnits whole.toList mostShown) ++ "..."
  else whole

/-- The error in words. -/
def message : PathError → String
  | system error => error.message
  | hasNul path =>
    "The argument 'path' must be a string, Uint8Array, or URL without null bytes. Received " ++
      shown path

/-- The error as a failure. -/
def toFailure : PathError → Failure
  | system error => .system error
  | hasNul path => .other "TypeError" (hasNul path).message

end PathError

/-- Why the content of a file cannot be had or stored. -/
inductive Obstacle where
  | path (error : PathError)
  | malformed
deriving DecidableEq, Repr

/-- The obstacle in words. -/
def Obstacle.message : Obstacle → String
  | path error => error.message
  | malformed => "The text is not valid JSON"

/-- What is wrong with a document. -/
inductive DocumentError where
  | missing (place : Place)
  | unreadable (place : Place) (obstacle : Obstacle)
  | unwritable (place : Place) (obstacle : Obstacle)
deriving DecidableEq, Repr

namespace DocumentError

/-- The error with its message and context. -/
def toError : DocumentError → AppError
  | missing place =>
    .config s!"File not found: {place.path}" (.object [("filePath", .string place.path)])
  | unreadable place obstacle =>
    .config s!"Failed to parse JSON file: {place.path}"
      (.object [("filePath", .string place.path), ("originalError", .string obstacle.message)])
  | unwritable place obstacle =>
    .config s!"Failed to write file: {place.path}"
      (.object [("filePath", .string place.path), ("originalError", .string obstacle.message)])

end DocumentError

/-- Read the value that a file holds. -/
def readDocument (tree : Tree) (place : Place) : Except DocumentError Value :=
  if tree.has place then
    match tree.read place with
    | .error errno => .error (.unreadable place (.path (.system ⟨errno, "read", place.path⟩)))
    | .ok octets =>
      match Json.read? (Text.Utf8.decode octets) with
      | some value => .ok value
      | none => .error (.unreadable place .malformed)
  else .error (.missing place)

/-- The octets of a file that holds a value. -/
def documentOctets (value : Value) : List UInt8 :=
  Text.Utf8.encode ((Json.pretty value).toList ++ ['\n'])

/-- Make the directories that are missing on the way to a place. -/
def ensureDirectory (tree : Tree) (place : Place) : Tree.Change PathError :=
  if place.hasNul then .failed tree (.hasNul place.path)
  else (tree.makeDirectories place).mapError fun errno => .system ⟨errno, "mkdir", place.path⟩

/-- Write a file into a directory. -/
def writeFile (tree : Tree) (place : Place) (octets : List UInt8) : Tree.Change PathError :=
  if place.hasNul then .failed tree (.hasNul place.path)
  else
    .ofExcept tree
      ((tree.write place octets).mapError fun errno => .system ⟨errno, "open", place.path⟩)

/-- Write a value into a file. -/
def writeDocument (tree : Tree) (place : Place) (value : Value) : Tree.Change DocumentError :=
  ((ensureDirectory tree place.tail).andThen fun tree =>
    writeFile tree place (documentOctets value)).mapError fun error =>
      .unwritable place (.path error)

end KeyClient.Files
