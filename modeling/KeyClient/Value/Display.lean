import KeyClient.Text.Columns
import KeyClient.Text.Units
import KeyClient.Value.Basic

/-!
# Displaying values

`Value.display` writes a value for a human reader: strings in the quotes that suit them, small
containers on one line, all others with one entry on a line, and long arrays of short items in
columns.  Whether a container fits on a line depends on its width and on how deep the container
displayed last inside it lies; `Display.value` therefore hands that depth on from entry to entry.
-/

namespace KeyClient

/-- The measures of a display. -/
structure DisplayFormat where
  /-- The width that no line with several entries exceeds. -/
  lineWidth : Nat
  /-- A container on one line has fewer levels than this inside it. -/
  levelsPerLine : Nat
  /-- Items of an array beyond this number are only counted. -/
  mostItems : Nat
  /-- Code units of a string beyond this number are only counted. -/
  mostUnits : Nat
  /-- Strings up to this width are never broken. -/
  unbrokenWidth : Nat
  /-- The deepest level whose containers are opened; none opens all. -/
  depth : Option Nat
  /-- Whether an array shows its length. -/
  showsLength : Bool

namespace DisplayFormat

/-- All levels, lines of 80. -/
def full : DisplayFormat := ⟨80, 3, 100, 10000, 16, none, false⟩

/-- Containers below the given level are only named. -/
def upTo (depth : Nat) : DisplayFormat := { full with depth := some depth }

end DisplayFormat

namespace Display

/-! ## Strings -/

/-- The mark that opens and closes a template. -/
def backquote : Char := '\x60'

/-- Whether the text contains a dollar sign before an opening brace. -/
def hasHole : List Char → Bool
  | '$' :: '\x7b' :: _ => true
  | _ :: cs => hasHole cs
  | [] => false

/-- The quote that suits a text: the first of single, double and back quote that needs no escape
in it, and the single quote if all do. -/
def quoteFor (cs : List Char) : Char :=
  if !cs.contains '\'' then '\''
  else if !cs.contains '\"' then '\"'
  else if !cs.contains backquote && !hasHole cs then backquote
  else '\''

/-- Two hexadecimal digits in upper case. -/
def hexByte (n : Nat) : List Char :=
  [n / 16 % 16, n % 16].map fun d => (Nat.digitChar d).toUpper

/-- A character inside quotes. -/
def escapeChar (quote c : Char) : List Char :=
  let n := c.toNat
  if c = '\\' || (c = '\'' && quote = '\'') then ['\\', c]
  else if c = '\n' then ['\\', 'n']
  else if c = '\t' then ['\\', 't']
  else if c = '\r' then ['\\', 'r']
  else if c = '\x08' then ['\\', 'b']
  else if c = '\x0c' then ['\\', 'f']
  else if n < 0x20 || (0x7F ≤ n && n ≤ 0x9F) then '\\' :: 'x' :: hexByte n
  else [c]

/-- The first unit of a divided pair, as it is written in quotes. -/
def escapeUnit (unit : Nat) : List Char := '\\' :: 'u' :: Nat.toDigits 16 unit

/-- A text in the quotes that suit it, with an escape sequence at its end. -/
def quoteWith (ending cs : List Char) : List Char :=
  let q := quoteFor cs
  q :: (cs.flatMap (escapeChar q) ++ ending ++ [q])

/-- A text in the quotes that suit it. -/
def quote (cs : List Char) : List Char := quoteWith [] cs

/-- The pieces of a text, each of which but the last ends with a line end. -/
def lines : List Char → List (List Char)
  | [] => []
  | '\n' :: cs => ['\n'] :: lines cs
  | c :: cs =>
    match lines cs with
    | [] => [[c]]
    | line :: rest => (c :: line) :: rest

/-- The pieces of a text, each in quotes; an escape sequence behind the text, unless it is empty,
stands in the last one. -/
def quotedLines (ending : List Char) : List (List Char) → List (List Char)
  | [] => if ending.isEmpty then [] else [quoteWith ending []]
  | [last] =>
    if ending.isEmpty || last.getLast? != some '\n' then [quoteWith ending last]
    else [quote last, quoteWith ending []]
  | line :: rest => quote line :: quotedLines ending rest

/-- A run of `n` spaces. -/
def spaces (n : Nat) : List Char := List.replicate n ' '

/-- The count of what is left out. -/
def remainder (count : Nat) (noun : String) : List Char :=
  (s!"... {count} more {noun}" ++ if count = 1 then "" else "s").toList

/-- A string at the given indentation; one too wide for its line is broken after line ends. -/
def string (format : DisplayFormat) (indent : Nat) (cs : List Char) : List Char :=
  let width := Text.width cs
  let kept := if format.mostUnits < width then Text.takeUnits cs format.mostUnits else cs
  let trailer :=
    if format.mostUnits < width then remainder (width - format.mostUnits) "character" else []
  let ending := ((Text.dividedUnit? cs format.mostUnits).map escapeUnit).getD []
  let keptWidth := min width format.mostUnits
  if format.unbrokenWidth < keptWidth && format.lineWidth < keptWidth + indent + 4 then
    (" +\n".toList ++ spaces (indent + 2)).intercalate (quotedLines ending (lines kept)) ++ trailer
  else quoteWith ending kept ++ trailer

/-! ## Keys and numbers -/

/-- Whether a key needs no quotes: a letter or an underscore, then also digits. -/
def isPlainKey : List Char → Bool
  | [] => false
  | c :: cs => (c.isAlpha || c == '_') && cs.all fun d => d.isAlphanum || d == '_'

/-- A key before its colon. -/
def key (name : String) : List Char :=
  if name = "__proto__" then "['__proto__']".toList
  else if isPlainKey name.toList then name.toList
  else quote name.toList

/-- A number; the sign of zero is shown. -/
def number : Number → String
  | .negativeZero => "-0"
  | n => n.text

/-! ## Columns -/

/-- Widths of the space and the comma between two entries of a row. -/
def separatorWidth : Nat := 2

/-- The part of a cell's width that does not count when its shape is judged. -/
def uncountedWidth : Nat := 3

/-- The area of a square with the given side. -/
def square (side : Nat) : Nat := side * side

/-- Whether `count` columns come close to a square, when `entries` entries of the given total and
greatest width (separators included) are set in cells two and a half times as high as wide.  Cells
count as narrower than they are, the more so the shorter their entries are on average. -/
def nearSquare (count entries shown total widest : Nat) : Bool :=
  let q := square (2 * count - 1)
  let area := 10 * entries
  let width := widest - uncountedWidth
  q ≤ area &&
    (width * q ≤ area || square (width * q - area) * shown ≤ (widest * shown - total) * square q)

/-- The most columns of an array. -/
def mostColumns : Nat := 15

/-- Number of columns for entries of the given widths; `shown` counts a closing remark too. -/
def columns (format : DisplayFormat) (indent : Nat) (widths : List Nat) (shown : Nat) : Nat :=
  let widest := widths.foldl max 0
  let cell := widest + separatorWidth
  let total := widths.foldl (· + ·) 0 + separatorWidth * widths.length
  if cell * 3 + indent < format.lineWidth && (5 * cell < total || widest ≤ 6) then
    let squarest :=
      ((List.range (mostColumns + 1)).reverse.find? fun count =>
        0 < count && nearSquare count widths.length shown total cell).getD 0
    min squarest (min ((format.lineWidth - indent) / cell) (format.levelsPerLine * 4))
  else 0

/-- Every `count`-th element from the start. -/
def everyNth (count : Nat) (xs : List Nat) : List Nat :=
  (List.range ((xs.length + count - 1) / count)).filterMap fun i => xs[i * count]?

/-- The width of each column: that of its widest entry. -/
def columnWidths (count : Nat) (widths : List Nat) : List Nat :=
  (List.range count).map fun k => (everyNth count (widths.drop k)).foldl max 0

/-- Fill up with spaces on the left. -/
def padLeft (width : Nat) (cs : List Char) : List Char :=
  spaces (width - Text.Columns.count cs) ++ cs

/-- Fill up with spaces on the right. -/
def padRight (width : Nat) (cs : List Char) : List Char :=
  cs ++ spaces (width - Text.Columns.count cs)

/-- One row of entries; numbers stand to the right in their column, all else to the left. -/
def row (numeric : Bool) : List (List Char) → List Nat → List Char
  | [], _ => []
  | [entry], widths => if numeric then padLeft (widths.headD 0) entry else entry
  | entry :: rest, widths =>
    let cell := entry ++ [',', ' ']
    let width := widths.headD 0 + separatorWidth
    (if numeric then padLeft width cell else padRight width cell) ++
      row numeric rest widths.tail

/-- Rows of `n` entries each, in columns that are wide enough for all of them. -/
def rows (numeric : Bool) (n : Nat) (entries : List (List Char)) : List (List Char) :=
  let widths := columnWidths n (entries.map Text.Columns.count)
  (List.range ((entries.length + n - 1) / n)).map fun i =>
    row numeric ((entries.drop (i * n)).take n) widths

/-- No more entries than this are ever put into rows of several. -/
def mostUngrouped : Nat := 6

/-- Put the entries of an array into rows, if they are many and short; an entry beyond the most
items has a row of its own. -/
def group (format : DisplayFormat) (indent : Nat) (numeric : Bool) (entries : List (List Char)) :
    List (List Char) :=
  let shown := entries.length
  if shown ≤ mostUngrouped then entries
  else
    let count := if format.mostItems < shown then shown - 1 else shown
    let grouped := entries.take count
    let n := columns format indent (grouped.map Text.Columns.count) shown
    if n ≤ 1 then entries else rows numeric n grouped ++ entries.drop count

/-! ## Containers -/

/-- Whether entries fit on one line behind an opening bracket at the given indentation. -/
def fits (format : DisplayFormat) (indent : Nat) (entries : List (List Char)) : Bool :=
  (entries.map Text.width).foldl (· + ·) 0 + 2 * entries.length + indent + 11 ≤ format.lineWidth &&
    entries.all fun entry => !entry.contains '\n'

/-- The entries of a container between its brackets; `flat` allows one line. -/
def enclose (format : DisplayFormat) (indent : Nat) (opening closing : Char) (flat : Bool)
    (entries : List (List Char)) : List Char :=
  if flat && fits format indent entries then
    opening :: ' ' :: ([',', ' '].intercalate entries ++ [' ', closing])
  else
    let line := '\n' :: spaces indent
    opening :: (line ++ [' ', ' '] ++ ((',' :: line) ++ [' ', ' ']).intercalate entries ++ line ++
      [closing])

/-- The remark on the length of an array. -/
def lengthEntry (format : DisplayFormat) (items : List Value) : List (List Char) :=
  if format.showsLength then [s!"[length]: {items.length}".toList] else []

/-- The remark on the items that are left out. -/
def remainderEntry (format : DisplayFormat) (items : List Value) : List (List Char) :=
  if format.mostItems < items.length then [remainder (items.length - format.mostItems) "item"]
  else []

/-- Whether the value is a number. -/
def isNumber : Value → Bool
  | .number _ => true
  | _ => false

/-- Whether the entries of an array are all numbers, so that they stand to the right. -/
def areNumbers (items : List Value) (shown : Nat) : Bool :=
  shown ≤ items.length && (items.take shown).all isNumber

/-- An array from its entries: grouped if possible, else on one line if allowed. -/
def array (format : DisplayFormat) (indent : Nat) (shallow : Bool) (items : List Value)
    (entries : List (List Char)) : List Char :=
  let entries := entries ++ remainderEntry format items ++ lengthEntry format items
  let grouped := group format indent (areNumbers items entries.length) entries
  enclose format indent '[' ']' (shallow && grouped.length == entries.length) grouped

/-- Whether containers at this level are only named. -/
def isBeyond (format : DisplayFormat) (level : Nat) : Bool :=
  match format.depth with
  | some depth => depth < level
  | none => false

mutual

/-- The value at the given level and indentation, and the level of the container displayed last
in it; `last` is that level before it. -/
def value (format : DisplayFormat) (level indent last : Nat) : Value → List Char × Nat
  | .undefined => ("undefined".toList, last)
  | .null => ("null".toList, last)
  | .bool b => ((toString b).toList, last)
  | .number n => ((number n).toList, last)
  | .string s => (string format indent s.toList, last)
  | .array xs =>
    if xs.isEmpty && !format.showsLength then (['[', ']'], last)
    else if isBeyond format level then ("[Array]".toList, last)
    else
      let (entries, deepest) := items format (level + 1) (indent + 2) level format.mostItems xs
      (array format indent (deepest < level + format.levelsPerLine) xs entries, deepest)
  | .object ms =>
    if ms.isEmpty then (['\x7b', '\x7d'], last)
    else if isBeyond format level then ("[Object]".toList, last)
    else
      let (entries, deepest) := members format (level + 1) (indent + 2) level ms
      (enclose format indent '\x7b' '\x7d' (deepest < level + format.levelsPerLine) entries,
        deepest)

/-- The items of an array up to a number of them. -/
def items (format : DisplayFormat) (level indent last : Nat) : Nat → List Value →
    List (List Char) × Nat
  | 0, _ => ([], last)
  | _, [] => ([], last)
  | most + 1, x :: rest =>
    let (entry, last) := value format level indent last x
    let (entries, last) := items format level indent last most rest
    (entry :: entries, last)

/-- The members of an object. -/
def members (format : DisplayFormat) (level indent last : Nat) : Members →
    List (List Char) × Nat
  | [] => ([], last)
  | (name, x) :: rest =>
    let (entry, last) := value format level indent last x
    let (entries, last) := members format level indent last rest
    ((key name ++ ':' :: ' ' :: entry) :: entries, last)

end

end Display

/-- The value written for a human reader. -/
def Value.display (format : DisplayFormat) (v : Value) : String :=
  String.ofList (Display.value format 0 0 0 v).1

end KeyClient
