import KeyClient.Log.Level
import KeyClient.Log.Template
import KeyClient.Text.Style

/-!
# Log entries

An entry is a message of some kind, perhaps with values behind it, or a header.  `Entry.block`
is what it looks like on the console; there is none if a placeholder of the message gets a value that
it cannot show.
-/

namespace KeyClient.Log

/-- The kinds of messages. -/
inductive Kind where
  | debug
  | info
  | success
  | warn
  | error
deriving DecidableEq, Repr

namespace Kind

/-- The severity of the kind. -/
def severity : Kind → Nat
  | debug => 0
  | info | success => 1
  | warn => 2
  | error => 3

/-- What stands before a message. -/
def label : Kind → String
  | debug => "[DEBUG] "
  | info => "[INFO]  "
  | success => "✔ "
  | warn => "[WARN]  "
  | error => "[ERROR] "

/-- The style of a message. -/
def style : Kind → Text.Style
  | debug => .gray
  | info => .blue
  | success => .green
  | warn => .yellow
  | error => .red

end Kind

/-- A text in a style, if the console has colors. -/
def paint (colors : Bool) (style : Text.Style) (text : String) : String :=
  if colors then style.apply text else text

/-- What is logged. -/
inductive Entry where
  | message (kind : Kind) (text : String) (values : List Value)
  | header (title : String)
deriving Repr

namespace Entry

/-- A message for those who look for mistakes. -/
def debug (text : String) (values : List Value) : Entry := message .debug text values

/-- The severity of an entry. -/
def severity : Entry → Nat
  | message kind .. => kind.severity
  | header _ => 1

/-- The greatest length of the rule below a header. -/
def longestRule : Nat := 60

/-- The rule below a header, a little longer than its title. -/
def rule (title : String) : String :=
  String.ofList (List.replicate (min (Text.width title.toList + 4) longestRule) '─')

/-- The entry on the console, unless one of its values cannot be put in its place. -/
def block? (colors : Bool) : Entry → Option String
  | message kind text values =>
    (Template.format (paint colors kind.style (kind.label ++ text)) values).map (· ++ "\n")
  | header title =>
    some ("\n" ++ paint colors .boldWhite title ++ "\n" ++ paint colors .gray (rule title) ++ "\n")

/-- What is left of the entry on the console: one that cannot be put together leaves nothing. -/
def block (colors : Bool) (entry : Entry) : String := (entry.block? colors).getD ""

end Entry

end KeyClient.Log
