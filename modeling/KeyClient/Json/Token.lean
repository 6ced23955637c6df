import KeyClient.Number.Numeral
import KeyClient.Text.Units
import KeyClient.Value.Basic

/-!
# JSON tokens

JSON text is cut into tokens by an automaton that reads one character at a time: `Scanner.step`
says what a character does, `Token.scan?` runs it over a text.  A string is collected in code
units, so that an escaped pair of surrogates becomes one character.
-/

namespace KeyClient.Json

/-- A mark of punctuation, or a value that is no container. -/
inductive Token where
  | openBracket
  | closeBracket
  | openBrace
  | closeBrace
  | comma
  | colon
  | literal (value : Value)
deriving Repr, BEq

/-- Where the scanner stands; what was collected so far is kept in reverse. -/
inductive Scanner where
  | between
  | word (collected : List Char)
  | quoted (collected : List Nat)
  | escaped (collected : List Nat)
  | unit (collected : List Nat) (digits : List Nat)
deriving Repr, DecidableEq

namespace Scanner

/-- Whether a whole part has no superfluous leading zero. -/
def isWhole (digits : List Char) : Bool :=
  match digits with
  | [] => false
  | ['0'] => true
  | '0' :: _ => false
  | _ => true

/-- What follows the whole part of a numeral: nothing, a fraction, an exponent, or both. -/
def isTail (cs : List Char) : Bool :=
  let rest? :=
    match cs with
    | '.' :: r =>
      if (r.takeWhile Char.isDigit).isEmpty then none else some (r.dropWhile Char.isDigit)
    | r => some r
  match rest? with
  | some [] => true
  | some rest => (Decimal.scanExponent rest).2.isEmpty
  | none => false

/-- The number that a word spells: a sign or none, a whole part, then fraction and exponent. -/
def number? (cs : List Char) : Option Number :=
  let (negative, rest) :=
    match cs with
    | '-' :: r => (true, r)
    | r => (false, r)
  if isWhole (rest.takeWhile Char.isDigit) && isTail (rest.dropWhile Char.isDigit) then
    (Decimal.scan? rest).map fun (decimal, _) => decimal.toNumber negative
  else none

/-- The value that a word stands for. -/
def wordValue? (cs : List Char) : Option Value :=
  if cs = "null".toList then some .null
  else if cs = "true".toList then some (.bool true)
  else if cs = "false".toList then some (.bool false)
  else (number? cs).map .number

/-- Whether the character belongs to a word. -/
def isWordChar (c : Char) : Bool := c.isAlphanum || c == '+' || c == '-' || c == '.'

/-- The character that a single escaped letter stands for. -/
def escapedChar? : Char → Option Char
  | '\"' => some '\"'
  | '\\' => some '\\'
  | '/' => some '/'
  | 'b' => some '\x08'
  | 'f' => some '\x0c'
  | 'n' => some '\n'
  | 'r' => some '\r'
  | 't' => some '\t'
  | _ => none

/-- A character between two tokens. -/
def start (c : Char) : Option (List Token × Scanner) :=
  match c with
  | ' ' | '\t' | '\n' | '\r' => some ([], between)
  | '[' => some ([.openBracket], between)
  | ']' => some ([.closeBracket], between)
  | '\x7b' => some ([.openBrace], between)
  | '\x7d' => some ([.closeBrace], between)
  | ',' => some ([.comma], between)
  | ':' => some ([.colon], between)
  | '\"' => some ([], quoted [])
  | c => if isWordChar c then some ([], word [c]) else none

/-- One character: the tokens that it completes and where the scanner stands after it. -/
def step (scanner : Scanner) (c : Char) : Option (List Token × Scanner) :=
  match scanner with
  | between => start c
  | word collected =>
    if isWordChar c then some ([], word (c :: collected))
    else do
      let value ← wordValue? collected.reverse
      let (tokens, next) ← start c
      return (.literal value :: tokens, next)
  | quoted collected =>
    if c = '\"' then
      some ([.literal (.string (String.ofList (Text.ofUnits collected.reverse)))], between)
    else if c = '\\' then some ([], escaped collected)
    else if c.toNat < 0x20 then none
    else some ([], quoted ((Text.charUnits c).reverse ++ collected))
  | escaped collected =>
    if c = 'u' then some ([], unit collected [])
    else (escapedChar? c).map fun d => ([], quoted (d.toNat :: collected))
  | unit collected digits => do
    let digit ← Number.digitValue? c
    match digits with
    | [a, b, d] => return ([], quoted ((((a * 16 + b) * 16 + d) * 16 + digit) :: collected))
    | digits => return ([], unit collected (digits ++ [digit]))

/-- The tokens that the end of the text completes. -/
def finish : Scanner → Option (List Token)
  | between => some []
  | word collected => (wordValue? collected.reverse).map fun value => [.literal value]
  | _ => none

end Scanner

namespace Token

/-- One character on top of the tokens completed so far, which are kept in reverse. -/
def advance (state : List Token × Scanner) (c : Char) : Option (List Token × Scanner) :=
  (state.2.step c).map fun (tokens, next) => (tokens.reverse ++ state.1, next)

/-- The tokens of a text. -/
def scan? (cs : List Char) : Option (List Token) := do
  let (completed, scanner) ← cs.foldlM advance ([], .between)
  let last ← scanner.finish
  return completed.reverse ++ last

end Token

end KeyClient.Json
