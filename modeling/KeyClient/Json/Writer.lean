import KeyClient.Text.Units
import KeyClient.Value.Basic

/-!
# Writing JSON

`Json.write` writes a value as JSON text, either without any blanks or with one entry on each
line.  Members that are undefined are left out; everything else that JSON cannot express is
written as `null`.
-/

namespace KeyClient.Json

/-- The four hexadecimal digits of a code unit, in lower case. -/
def hexUnit (n : Nat) : List Char :=
  [n / 0x1000 % 16, n / 0x100 % 16, n / 0x10 % 16, n % 16].map Nat.digitChar

/-- A character inside a string. -/
def escapeChar (c : Char) : List Char :=
  match c with
  | '\"' => ['\\', '\"']
  | '\\' => ['\\', '\\']
  | '\x08' => ['\\', 'b']
  | '\x0c' => ['\\', 'f']
  | '\n' => ['\\', 'n']
  | '\r' => ['\\', 'r']
  | '\t' => ['\\', 't']
  | c => if c.toNat < 0x20 then '\\' :: 'u' :: hexUnit c.toNat else [c]

/-- A string between quotes. -/
def quote (s : String) : List Char := '\"' :: (s.toList.flatMap escapeChar ++ ['\"'])

/-- Width of one level of indentation; none puts everything on one line. -/
abbrev Indent := Option Nat

/-- A line end with the indentation of the given level. -/
def lineBreak (indent : Indent) (level : Nat) : List Char :=
  match indent with
  | none => []
  | some width => '\n' :: List.replicate (width * level) ' '

/-- A container whose entries stand one level deeper than its brackets. -/
def enclose (indent : Indent) (level : Nat) (opening closing : Char) (entries : List (List Char)) :
    List Char :=
  if entries.isEmpty then [opening, closing]
  else
    opening :: lineBreak indent (level + 1) ++
      (',' :: lineBreak indent (level + 1)).intercalate entries ++
      lineBreak indent level ++ [closing]

/-- What stands between a key and its value. -/
def colon (indent : Indent) : List Char := if indent.isSome then [':', ' '] else [':']

/-- A number; what is not finite is written as `null`. -/
def number : Number → String
  | .nan | .infinity _ => "null"
  | n => n.text

mutual

/-- The characters of a value at the given level of nesting. -/
def chars (indent : Indent) (level : Nat) : Value → List Char
  | .undefined | .null => "null".toList
  | .bool b => (toString b).toList
  | .number n => (number n).toList
  | .string s => quote s
  | .array items => enclose indent level '[' ']' (itemChars indent (level + 1) items)
  | .object members => enclose indent level '\x7b' '\x7d' (memberChars indent (level + 1) members)

/-- The items of an array. -/
def itemChars (indent : Indent) (level : Nat) : List Value → List (List Char)
  | [] => []
  | item :: rest => chars indent level item :: itemChars indent level rest

/-- The members of an object that are not undefined. -/
def memberChars (indent : Indent) (level : Nat) : Members → List (List Char)
  | [] => []
  | (_, .undefined) :: rest => memberChars indent level rest
  | (key, value) :: rest =>
    (quote key ++ colon indent ++ chars indent level value) :: memberChars indent level rest

end

/-- The value as JSON text; the undefined value has only its own name. -/
def write (indent : Indent) (value : Value) : String :=
  match value with
  | .undefined => "undefined"
  | value => String.ofList (chars indent 0 value)

/-- The value on one line without blanks. -/
def compact (value : Value) : String := write none value

/-- The value with one entry on a line, indented by two. -/
def pretty (value : Value) : String := write (some 2) value

end KeyClient.Json
