import KeyClient.CommandLine.Command
import KeyClient.Json.Writer
import KeyClient.Text.Blank
import KeyClient.Text.Style

/-!
# Help texts

The help of a command shows how it is used, what it does, and two columns for its options and for
its commands.  Long texts are wrapped by `wrap`, which keeps words whole; a line that starts with
a blank is taken for set by hand and leaves the text as it is.  The layout is that of the help of
commander 13.1.0.
-/

namespace KeyClient.CommandLine.Help

/-- The width of help texts. -/
def lineWidth : Nat := 80

/-- Columns narrower than this are not wrapped. -/
def leastWidth : Nat := 40

/-- Blanks before an entry and between its columns. -/
def gap : Nat := 2

/-- A run of `n` spaces. -/
def spaces (n : Nat) : List Char := List.replicate n ' '

/-- The width of a text on the terminal, where escape sequences do not show. -/
def shownWidth (text : List Char) : Nat := Text.width (Text.unstyled 0 text)

/-! ## Wrapping -/

/-- The lines of a text; a carriage return before a line end belongs to it. -/
def lines : List Char → List (List Char)
  | [] => [[]]
  | '\r' :: '\n' :: cs => [] :: lines cs
  | '\n' :: cs => [] :: lines cs
  | c :: cs =>
    match lines cs with
    | [] => [[c]]
    | line :: rest => (c :: line) :: rest

/-- The words of a line, each with the blanks before it; `word` holds the reversed start of the
next one, `full` tells whether it has more than blanks. -/
def chunksFrom (word : List Char) (full : Bool) : List Char → List (List Char)
  | [] => if full then [word.reverse] else []
  | c :: cs =>
    if Text.isBlank c && full then word.reverse :: chunksFrom [c] false cs
    else chunksFrom (c :: word) (full || !Text.isBlank c) cs

/-- The words of a line, each with the blanks before it. -/
def chunks (line : List Char) : List (List Char) := chunksFrom [] false line

/-- Put words behind the line begun with `line` as long as they fit. -/
def fillLines (width : Nat) (line : List Char) : List (List Char) → List (List Char)
  | [] => [line]
  | chunk :: rest =>
    if shownWidth line + shownWidth chunk ≤ width then fillLines width (line ++ chunk) rest
    else line :: fillLines width (Text.trimStart chunk) rest

/-- One line as lines that are not too wide. -/
def wrapLine (width : Nat) (line : List Char) : List (List Char) :=
  match chunks line with
  | [] => [[]]
  | first :: rest => fillLines width first rest

/-- A text in lines that are not too wide, unless the width is too small. -/
def wrap (width : Nat) (text : List Char) : List Char :=
  if width < leastWidth then text
  else Text.join ['\n'] ((lines text).flatMap (wrapLine width))

/-- Whether a line of the text, but not the first, starts with a blank. -/
def isSetByHand : List Char → Bool
  | '\n' :: c :: cs => (Text.isBlank c && c != '\n' && c != '\r') || isSetByHand (c :: cs)
  | _ :: cs => isSetByHand cs
  | [] => false

/-- Follow every line end by spaces. -/
def indentAfter (n : Nat) (text : List Char) : List Char :=
  text.flatMap fun c => if c = '\n' then c :: spaces n else [c]

/-! ## Entries -/

/-- A term with its description. -/
structure Entry where
  term : String
  description : String
deriving DecidableEq, Repr

/-- The width of a term. -/
def Entry.width (entry : Entry) : Nat := shownWidth entry.term.toList

/-- An entry whose term column has the given width. -/
def Entry.text (termWidth : Nat) (entry : Entry) : List Char :=
  let term := entry.term.toList
  let description := entry.description.toList
  if description.isEmpty then spaces gap ++ term
  else
    let width := lineWidth - termWidth - gap - gap
    let description :=
      if width < leastWidth || isSetByHand description then description
      else indentAfter (termWidth + gap) (wrap width description)
    spaces gap ++ term ++ spaces (termWidth - entry.width) ++ spaces gap ++
      indentAfter gap description

/-- What is said about choices. -/
def choicesRemark (choices : List String) : String :=
  "choices: " ++ ", ".intercalate (choices.map fun choice => Json.compact (.string choice))

/-- What is said in brackets about an option. -/
def remarks (spec : OptionSpec) : List String :=
  (spec.choices.map choicesRemark).toList ++
    (match spec.default with
    | .undefined => []
    | .bool b =>
      if spec.isRequired || spec.isOptional || spec.isSwitch then
        ["default: " ++ Json.compact (.bool b)]
      else []
    | v =>
      if spec.isRequired || spec.isOptional then ["default: " ++ Json.compact v] else []) ++
    (match spec.standIn with
    | .undefined => []
    | v => if spec.isOptional then ["preset: " ++ Json.compact v] else [])

/-- The entry of an option. -/
def optionEntry (spec : OptionSpec) : Entry :=
  let remarks := remarks spec
  ⟨spec.flags,
    if remarks.isEmpty then spec.help else spec.help ++ " (" ++ ", ".intercalate remarks ++ ")"⟩

/-- Short spelling of the request for help. -/
def shortFlag : String := "-h"

/-- Long spelling of the request for help. -/
def longFlag : String := "--help"

/-- What the request for help is described as. -/
def about : String := "display help for command"

/-- The flags by which help can be asked for, unless options of the command have them. -/
def requestFlags (options : List OptionSpec) : Option String :=
  let free (flag : String) : Bool := !options.any (·.hasSpelling flag)
  if free shortFlag && free longFlag then some (shortFlag ++ ", " ++ longFlag)
  else if free longFlag then some longFlag
  else if free shortFlag then some shortFlag
  else none

/-- The entries of options, and of the request for help. -/
def optionEntries (options : List OptionSpec) : List Entry :=
  ((options.filter fun spec => !spec.hidden).map optionEntry) ++
    (requestFlags options).toList.map fun flags => ⟨flags, about⟩

/-- The long spellings that a user can see. -/
def longFlags (options : List OptionSpec) : List String :=
  ((options.filter fun spec => !spec.hidden).filterMap fun spec => spec.spellings.long) ++
    (if options.any (·.hasSpelling longFlag) then [] else [longFlag])

/-! ## Pages -/

/-- The help of one command. -/
structure Page where
  usage : String
  description : String
  options : List Entry
  commands : List Entry
deriving Repr

/-- A column with its title. -/
def column (title : String) (termWidth : Nat) (entries : List Entry) : List (List Char) :=
  if entries.isEmpty then [] else title.toList :: entries.map (Entry.text termWidth) ++ [[]]

/-- The help as text, without escape sequences that its entries carry. -/
def Page.text (page : Page) : String :=
  let termWidth := ((page.options ++ page.commands).map Entry.width).foldl max 0
  let description :=
    if page.description = "" then [] else [wrap lineWidth page.description.toList, []]
  String.ofList <| Text.unstyled 0 <| Text.join ['\n'] <|
    ["Usage: ".toList ++ page.usage.toList, []] ++ description ++
      column "Options:" termWidth page.options ++ column "Commands:" termWidth page.commands

end KeyClient.CommandLine.Help
