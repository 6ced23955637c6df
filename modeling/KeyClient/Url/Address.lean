import KeyClient.Text.Split
import KeyClient.Url.Percent

/-!
# Numeric addresses

Hosts that are numbers: `Ipv4.parse?` reads up to four numbers in decimal, octal or hexadecimal
notation, `Ipv6.parse?` eight groups of hexadecimal digits, of which one sequence of zeros may be
left out.  Both are written in one way only, `Ipv4.text` and `Ipv6.text`.
-/

namespace KeyClient.Url

/-- The digits of a number in a base up to 16, in lower case. -/
def numeral (base n : Nat) : List Char := Nat.toDigits base n

/-- The number that digits of a base up to 16 stand for. -/
def number? (base : Nat) (cs : List Char) : Option Nat :=
  cs.foldlM (fun n c => do
    let d ← Percent.digitValue? c
    if d < base then some (n * base + d) else none) 0

namespace Ipv4

/-- A part of an address: hexadecimal behind `0x`, octal behind `0`, decimal otherwise. -/
def part? : List Char → Option Nat
  | [] => none
  | '0' :: 'x' :: cs | '0' :: 'X' :: cs => number? 16 cs
  | '0' :: cs => number? 8 cs
  | cs => number? 10 cs

/-- The parts of a name between its dots; one dot may end it. -/
def parts (cs : List Char) : List (List Char) :=
  let parts := Text.split (· == '.') cs
  if 1 < parts.length && parts.getLast? == some [] then parts.dropLast else parts

/-- Whether a name must be a numeric address: its last part is a number. -/
def endsInNumber (cs : List Char) : Bool :=
  (parts cs).getLast?.any fun last =>
    (!last.isEmpty && last.all Char.isDigit) || (part? last).isSome

/-- The address of its numbers: all but the last stand for one octet. -/
def ofParts? (numbers : List Nat) : Option Nat :=
  match numbers.reverse with
  | [] => none
  | last :: rest =>
    let room := Nat.pow 256 (4 - rest.length)
    if 4 < numbers.length || rest.any (255 < ·) || room ≤ last then none
    else some (rest.reverse.foldl (fun n octet => n * 256 + octet) 0 * room + last)

/-- The address that a name stands for. -/
def parse? (cs : List Char) : Option Nat := ((parts cs).mapM part?).bind ofParts?

/-- The address as four decimal numbers. -/
def text (address : Nat) : List Char :=
  Text.join ['.'] ([3, 2, 1, 0].map fun place =>
    numeral 10 (address / Nat.pow 256 place % 256))

end Ipv4

namespace Ipv6

/-- A group: one to four digits. -/
def group? (cs : List Char) : Option Nat :=
  if cs.isEmpty || 4 < cs.length then none else number? 16 cs

/-- An octet in decimal notation without leading zeros. -/
def octet? (cs : List Char) : Option Nat :=
  if cs.isEmpty || 3 < cs.length || (1 < cs.length && cs.head? == some '0') then none
  else (number? 10 cs).filter (· < 256)

/-- The last two groups, written as four octets. -/
def octets? (cs : List Char) : Option (List Nat) := do
  match ← (Text.split (· == '.') cs).mapM octet? with
  | [a, b, c, d] => some [256 * a + b, 256 * c + d]
  | _ => none

/-- Groups with colons between them; the last may stand for two, if `mixed` allows it. -/
def groups? (mixed : Bool) : List (List Char) → Option (List Nat)
  | [] => some []
  | [part] => if mixed && part.contains '.' then octets? part else (group? part).map ([·])
  | part :: rest => do
    let group ← group? part
    let groups ← groups? mixed rest
    some (group :: groups)

/-- The groups of a text, which has none if it is empty. -/
def side? (mixed : Bool) (cs : List Char) : Option (List Nat) :=
  if cs.isEmpty then some [] else groups? mixed (Text.split (· == ':') cs)

/-- What stands before and after the first two colons in a row. -/
def cutGap : List Char → Option (List Char × List Char)
  | ':' :: ':' :: cs => some ([], cs)
  | c :: cs => (cutGap cs).map fun (before, after) => (c :: before, after)
  | [] => none

/-- The eight groups that a text stands for. -/
def parse? (cs : List Char) : Option (List Nat) :=
  match cutGap cs with
  | none => (side? true cs).filter (·.length = 8)
  | some (before, after) => do
    let left ← side? false before
    let right ← side? true after
    if left.length + right.length ≤ 7 then
      some (left ++ List.replicate (8 - left.length - right.length) 0 ++ right)
    else none

/-- Length of the sequence of zeros at the start. -/
def zeros (groups : List Nat) : Nat := (groups.takeWhile (· == 0)).length

/-- Where the longest sequence of at least two zeros starts, the first of equals, and its length;
`index` is the place of the first group. -/
def longestGap (index : Nat) : List Nat → Nat × Nat
  | [] => (0, 1)
  | group :: rest =>
    let here := zeros (group :: rest)
    let later := longestGap (index + 1) rest
    if 1 < here && later.2 ≤ here then (index, here) else later

/-- Groups in hexadecimal notation with colons between them. -/
def groupsText (groups : List Nat) : List Char := Text.join [':'] (groups.map (numeral 16))

/-- The groups as text, with the longest gap left out. -/
def text (groups : List Nat) : List Char :=
  match longestGap 0 groups with
  | (start, length) =>
    if length < 2 then groupsText groups
    else groupsText (groups.take start) ++ ':' :: ':' :: groupsText (groups.drop (start + length))

end Ipv6

end KeyClient.Url
