/-!
# Terminal styles

A style brackets a text with escape sequences.  `Style.apply` keeps the brackets valid inside the
text too: a closing sequence that the text itself carries is followed by an opening one, and every
line end is wrapped so that no style crosses it, as chalk 5.6.2 does.
-/

namespace KeyClient.Text

/-- One terminal attribute, by the numbers of its opening and closing sequences. -/
structure Attribute where
  opening : Nat
  closing : Nat
deriving DecidableEq, Repr

/-- The escape sequence with the given number. -/
def escape (n : Nat) : List Char := '\x1b' :: '[' :: (Nat.toDigits 10 n ++ ['m'])

/-- A style lists its attributes from the outermost to the innermost. -/
abbrev Style := List Attribute

/-- The length of the escape sequence at the start of a text, if there is one. -/
def sequenceLength? : List Char → Option Nat
  | '\x1b' :: '[' :: cs =>
    let numbers := cs.takeWhile fun c => c.isDigit || c == ';'
    if cs[numbers.length]? = some 'm' then some (numbers.length + 3) else none
  | _ => none

/-- The text without its escape sequences; `skip` characters of one are still to be passed over. -/
def unstyled (skip : Nat) : List Char → List Char
  | [] => []
  | c :: cs =>
    match skip with
    | skip + 1 => unstyled skip cs
    | 0 =>
      match sequenceLength? (c :: cs) with
      | some n => unstyled (n - 1) cs
      | none => c :: unstyled 0 cs

namespace Style

/-- Gray, for what is of little interest. -/
def gray : Style := [⟨90, 39⟩]

/-- Blue, for what is going on. -/
def blue : Style := [⟨34, 39⟩]

/-- Green, for what has succeeded. -/
def green : Style := [⟨32, 39⟩]

/-- Yellow, for warnings. -/
def yellow : Style := [⟨33, 39⟩]

/-- Red, for errors. -/
def red : Style := [⟨31, 39⟩]

/-- Bold and white, for headers. -/
def boldWhite : Style := [⟨1, 22⟩, ⟨37, 39⟩]

/-- The sequences that open the style. -/
def opening (style : Style) : List Char := style.flatMap fun a => escape a.opening

/-- The sequences that close the style. -/
def closing (style : Style) : List Char := style.reverse.flatMap fun a => escape a.closing

/-- Follow every occurrence of `mark` in a text by `extra`; a mark is never empty. -/
def followEach (mark extra : List Char) : Nat → List Char → List Char
  | _, [] => []
  | skip + 1, c :: cs => c :: (if skip = 0 then extra else []) ++ followEach mark extra skip cs
  | 0, c :: cs =>
    if mark.isPrefixOf (c :: cs) then
      c :: (if mark.length ≤ 1 then extra else []) ++ followEach mark extra (mark.length - 1) cs
    else c :: followEach mark extra 0 cs

/-- Reopen the style after each of its own closing sequences in the text, innermost first. -/
def reopen (style : Style) (cs : List Char) : List Char :=
  style.foldr (fun a cs => followEach (escape a.closing) (escape a.opening) 0 cs) cs

/-- Close the style before every line end and open it again after. -/
def wrapLines (style : Style) : List Char → List Char
  | [] => []
  | '\r' :: '\n' :: cs => style.closing ++ '\r' :: '\n' :: style.opening ++ wrapLines style cs
  | '\n' :: cs => style.closing ++ '\n' :: style.opening ++ wrapLines style cs
  | c :: cs => c :: wrapLines style cs

/-- The text in the given style; the empty text has none. -/
def apply (style : Style) (text : String) : String :=
  if text = "" then text
  else
    String.ofList (style.opening ++ style.wrapLines (style.reopen text.toList) ++ style.closing)

end Style

end KeyClient.Text
