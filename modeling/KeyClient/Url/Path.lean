import KeyClient.Text.Split
import KeyClient.Url.Percent

/-!
# Paths of addresses

A path is a list of segments or, with a scheme that does not continue with a slash, plain text.
`Path.resolve` takes the segments of a text in order and lets dots refer to the segments before
them; a text whose first dotted segment is a hidden name is kept verbatim.
-/

namespace KeyClient.Url

/-- The path of an address. -/
inductive Path where
  | segments (names : List (List Char))
  | plain (text : List Char)
deriving DecidableEq, Repr

namespace Path

/-- The spellings of a dot in a path. -/
def dots : List (List Char) := [".".toList, "%2e".toList]

/-- Whether the segment stands for the directory itself. -/
def isHere (segment : List Char) : Bool := dots.contains (segment.map Char.toLower)

/-- Whether the segment stands for the directory above. -/
def isAbove (segment : List Char) : Bool :=
  (dots.flatMap fun a => dots.map (a ++ ·)).contains (segment.map Char.toLower)

/-- Whether the text is a letter that names a drive, with a colon or a bar behind it. -/
def isDrive : List Char → Bool
  | [c, mark] => c.isAlpha && (mark == ':' || mark == '|')
  | _ => false

/-- How a scheme treats the paths of its addresses: it is that of files, it needs a server, or it
is any other scheme. -/
inductive Style where
  | file
  | server
  | other
deriving DecidableEq, Repr

/-- Whether the character separates the segments of a path. -/
def Style.isSlash (style : Style) (c : Char) : Bool := c == '/' || (style != .other && c == '\\')

/-- Whether the segment starts with a letter and a colon, so that nothing in a file path leads
above it. -/
def holdsDrive : List Char → Bool
  | c :: ':' :: _ => c.isAlpha
  | _ => false

/-- The segments before the last one; a drive at the start of a file path stays. -/
def shorten (style : Style) (reversed : List (List Char)) : List (List Char) :=
  match reversed with
  | [first] => if style = .file && holdsDrive first then [first] else []
  | _ => reversed.tail

/-- The directory above the segments, as the end of a path.  Where there is none, only the schemes
that need a path give the root. -/
def above (style : Style) (reversed : List (List Char)) : List (List Char) :=
  if style = .other && reversed.isEmpty then [] else [] :: shorten style reversed

/-- A segment as it is kept: a drive at the start of a file path gets its colon, and what may not
stand in a path is encoded. -/
def keep (style : Style) (first : Bool) (segment : List Char) : List Char :=
  if style = .file && first && isDrive segment then segment.take 1 ++ [':']
  else Percent.encode Percent.path segment

/-- The path of the segments that follow those in `reversed`. -/
def resolve (style : Style) (reversed : List (List Char)) : List (List Char) → List (List Char)
  | [] => reversed.reverse
  | [last] =>
    if isAbove last then (above style reversed).reverse
    else if isHere last then ([] :: reversed).reverse
    else (keep style reversed.isEmpty last :: reversed).reverse
  | segment :: rest =>
    if isAbove segment then resolve style (shorten style reversed) rest
    else if isHere segment then resolve style reversed rest
    else resolve style (keep style reversed.isEmpty segment :: reversed) rest

/-- Whether the character stands for nothing but itself in every path. -/
def isLiteral (c : Char) : Bool := !Percent.path c && c != '%' && c != '\\'

/-- Whether the segment starts with a dot. -/
def startsHidden (segment : List Char) : Bool := segment.head? == some '.'

/-- Whether the segment is a hidden name: there is something behind its dot, and no second dot. -/
def isHidden : List Char → Bool
  | '.' :: c :: _ => c != '.'
  | _ => false

/-- Whether the segments are kept as they are written.  The first one with a dot in front decides:
a hidden name stands for itself, and whatever follows it is not looked at. -/
def isVerbatim (style : Style) : List (List Char) → Bool
  | [] => false
  | first :: rest =>
    !(style = .file && isDrive first) && !startsHidden first &&
      (first :: rest).all (·.all isLiteral) && ((rest.find? startsHidden).map isHidden).getD false

/-- The path of the text behind its first slash. -/
def ofText (style : Style) (cs : List Char) : Path :=
  let names := Text.split style.isSlash cs
  segments (if isVerbatim style names then names else resolve style [] names)

/-- The path as text. -/
def text : Path → List Char
  | segments names => names.flatMap ('/' :: ·)
  | plain text => text

/-- A plain path without the spaces at its end. -/
def trimEnd : Path → Path
  | segments names => segments names
  | plain text => plain (text.reverse.dropWhile (· == ' ')).reverse

end Path

end KeyClient.Url
