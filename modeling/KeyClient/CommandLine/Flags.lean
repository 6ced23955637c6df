import KeyClient.Text.Split
import KeyClient.Text.Units

/-!
# Flags

An option is declared by a text such as `-t, --tags <tag...>`: its spellings, separated by
blanks, commas or bars, and a place for its value.  `Flags.parse?` finds the spellings and says
what is wrong with a text that has none or too many, as commander 13.1.0 does.
-/

namespace KeyClient.CommandLine

/-- The spellings of an option: a long one, a short one, or both. -/
structure Flags where
  short : Option String
  long : Option String
deriving DecidableEq, Repr

/-- Why a text declares no option. -/
inductive FlagsError where
  | tooLongShort (part flags : String)
  | tooManyShort (part flags : String)
  | tooManyLong (part flags : String)
  | unrecognised (part flags : String)
  | noFlags (flags : String)
deriving DecidableEq, Repr

namespace FlagsError

/-- The start of the messages about one part. -/
def about (part flags : String) : String :=
  s!"option creation failed due to '{part}' in option flags '{flags}'\n"

/-- The message for whoever declares the option. -/
def message : FlagsError → String
  | tooLongShort part flags =>
    about part flags ++
      "- a short flag is a single dash and a single character\n" ++
      "  - either use a single dash and a single character (for a short flag)\n" ++
      "  - or use a double dash for a long option (and can have two, like '--ws, --workspace')"
  | tooManyShort part flags => about part flags ++ "- too many short flags"
  | tooManyLong part flags => about part flags ++ "- too many long flags"
  | unrecognised part flags => about part flags ++ "- unrecognised flag format"
  | noFlags flags => s!"option creation failed due to no flags found in '{flags}'."

end FlagsError

namespace Flags

/-- Whether the part is a dash and one more character. -/
def isShort (part : String) : Bool :=
  match part.toList with
  | ['-', c] => c != '-' && Text.width [c] == 1
  | _ => false

/-- Whether the part is two dashes and more. -/
def isLong (part : String) : Bool :=
  match part.toList with
  | '-' :: '-' :: c :: _ => c != '-'
  | _ => false

/-- Whether the part is a dash and several more characters. -/
def isCrowded (part : String) : Bool :=
  match part.toList with
  | '-' :: c :: rest => c != '-' && rest.head?.any (· != '-') || (c != '-' && 1 < Text.width [c])
  | _ => false

/-- Whether the character separates the parts. -/
def isSeparator (c : Char) : Bool := c == ' ' || c == '|' || c == ','

/-- The parts of a text; several separators in a row count as one. -/
def parts (flags : String) : List String :=
  match Text.split isSeparator flags.toList with
  | [] => []
  | first :: rest =>
    let inner := rest.dropLast.filter fun part => !part.isEmpty
    (first :: (inner ++ rest.getLast?.toList)).map String.ofList

/-- The first part, if it satisfies `p`, and the parts after it. -/
def take? (p : String → Bool) : List String → Option String × List String
  | part :: rest => if p part then (some part, rest) else (none, part :: rest)
  | [] => (none, [])

/-- What is wrong with a part that is left over. -/
def complaint? (flags : String) (rest : List String) (found : Bool) : Option FlagsError :=
  let part := rest.headD ""
  if part.toList.head? = some '-' then
    some (if isCrowded part then .tooLongShort part flags
      else if isShort part then .tooManyShort part flags
      else if isLong part then .tooManyLong part flags
      else .unrecognised part flags)
  else if found then none
  else some (.noFlags flags)

/-- The spellings that a text declares; of two long ones the first counts as the short one. -/
def parse? (flags : String) : Except FlagsError Flags :=
  let (short, rest) := take? isShort (parts flags)
  let (long, rest) := take? isLong rest
  let (late, rest) := take? (fun part => short.isNone && isShort part) rest
  let short := short.or late
  let (second, rest) := take? (fun part => short.isNone && isLong part) rest
  let spellings : Flags := if second.isSome then ⟨long, second⟩ else ⟨short, long⟩
  match complaint? flags rest (spellings.short.isSome || spellings.long.isSome) with
  | some error => .error error
  | none => .ok spellings

end Flags

end KeyClient.CommandLine
