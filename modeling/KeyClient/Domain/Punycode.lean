import KeyClient.Text.Split

/-!
# Punycode

A label with characters beyond ASCII is written with letters, digits and hyphens only: first its
ASCII characters, then one number for each other character, in ascending order, which says how far
to go on counting characters and places until it is to be inserted.  The numbers have digits of
varying weight.  The main definitions are `encode` and the automaton `Decoder.step` behind
`decode?`.
-/

namespace KeyClient.Domain.Punycode

/-! ## Digits -/

/-- The number of digits. -/
def base : Nat := 36

/-- The threshold of the digit at position `k` (a multiple of the base), between 1 and 26. -/
def threshold (bias k : Nat) : Nat := max 1 (min 26 (k - bias))

theorem threshold_pos (bias k : Nat) : 1 ≤ threshold bias k := by
  unfold threshold
  omega

/-- How often the number can be divided by 35 until it is at most 455, and what is then left. -/
def shrink (delta : Nat) : Nat × Nat :=
  if 455 < delta then ((shrink (delta / 35)).1 + 1, (shrink (delta / 35)).2) else (0, delta)
termination_by delta
decreasing_by all_goals omega

/-- The bias after a number, by the count of characters handled so far. -/
def adapt (delta count : Nat) (first : Bool) : Nat :=
  let scaled := if first then delta / 700 else delta / 2
  let (steps, rest) := shrink (scaled + scaled / count)
  base * steps + base * rest / (rest + 38)

/-- The bias before the first number. -/
def firstBias : Nat := 72

/-- The least character that is encoded by a number. -/
def firstCode : Nat := 128

/-- The character of a digit: the letters, then 0 to 9. -/
def digitChar (d : Nat) : Char := if d < 26 then Char.ofNat (97 + d) else Char.ofNat (22 + d)

/-- The value of a digit. -/
def digitValue? (c : Char) : Option Nat :=
  if c.isLower then some (c.toNat - 97)
  else if c.isDigit then some (c.toNat - 22)
  else none

/-! ## Encoding -/

/-- A number by its digits from position `k` on. -/
def digits (bias k n : Nat) : List Char :=
  let t := threshold bias k
  if n < t then [digitChar n]
  else digitChar (t + (n - t) % (base - t)) :: digits bias (k + base) ((n - t) / (base - t))
termination_by n
decreasing_by
  have low := threshold_pos bias k
  have quotient := Nat.div_le_self (n - threshold bias k) (base - threshold bias k)
  omega

/-- The encoder's state: the distance since the last number, the bias and the count of characters
handled so far. -/
structure Encoder where
  delta : Nat
  bias : Nat
  handled : Nat
deriving DecidableEq, Repr

/-- Write the number of each occurrence of `code`; lower characters are passed over. -/
def encodeCode (ascii code : Nat) (state : Encoder) : List Char → List Char × Encoder
  | [] => ([], { state with delta := state.delta + 1 })
  | c :: cs =>
    if c.toNat < code then encodeCode ascii code { state with delta := state.delta + 1 } cs
    else if c.toNat = code then
      let next : Encoder :=
        ⟨0, adapt state.delta (state.handled + 1) (state.handled == ascii), state.handled + 1⟩
      let (rest, last) := encodeCode ascii code next cs
      (digits state.bias base state.delta ++ rest, last)
    else encodeCode ascii code state cs

/-- Write the numbers of all characters with one of the codes, which ascend from `code`. -/
def encodeCodes (ascii : Nat) (label : List Char) (code : Nat) (state : Encoder) :
    List Nat → List Char
  | [] => []
  | next :: codes =>
    let delta := state.delta + (next - code) * (state.handled + 1)
    let (written, state) := encodeCode ascii next { state with delta := delta } label
    written ++ encodeCodes ascii label (next + 1) state codes

/-- The codes beyond ASCII of a label, each once, in ascending order. -/
def codes (label : List Char) : List Nat :=
  (((label.map Char.toNat).filter (firstCode ≤ ·)).mergeSort).eraseDups

/-- A label by letters, digits and hyphens. -/
def encode (label : List Char) : List Char :=
  let ascii := label.filter fun c => c.toNat < firstCode
  (if ascii.isEmpty then [] else ascii ++ ['-']) ++
    encodeCodes ascii.length label firstCode ⟨0, firstBias, ascii.length⟩ (codes label)

/-! ## Decoding -/

/-- Numbers of the decoder stay below this bound. -/
def bound : Nat := Nat.pow 2 31

/-- The decoder's state: the label so far, the code and place counted up to, the bias, and the
place before the number that is being read with the weight and position of its next digit. -/
structure Decoder where
  label : List Nat
  code : Nat
  place : Nat
  bias : Nat
  start : Nat
  weight : Nat
  position : Nat
deriving DecidableEq, Repr

/-- The state between two numbers. -/
def Decoder.between (label : List Nat) (code place bias : Nat) : Decoder :=
  ⟨label, code, place, bias, place, 1, base⟩

/-- One digit. -/
def Decoder.step (state : Decoder) (c : Char) : Option Decoder := do
  let digit ← digitValue? c
  let place := state.place + digit * state.weight
  let t := threshold state.bias state.position
  if bound ≤ place then none
  else if t ≤ digit then
    let weight := state.weight * (base - t)
    if bound ≤ weight then none
    else
      some { state with place := place, weight := weight, position := state.position + base }
  else
    let count := state.label.length + 1
    let code := state.code + place / count
    let bias := adapt (place - state.start) count (state.start == 0)
    if bound ≤ code then none
    else some (.between (state.label.insertIdx (place % count) code) code (place % count + 1) bias)

/-- The ASCII characters before the last hyphen, if there is one, and what follows it. -/
def cutLast (cs : List Char) : List Char × List Char :=
  match Text.cut (· == '-') cs.reverse with
  | (rest, some ascii) => (ascii.reverse, rest.reverse)
  | (rest, none) => ([], rest.reverse)

/-- The label that its ASCII form stands for. -/
def decode? (cs : List Char) : Option (List Char) := do
  let (ascii, numbers) := cutLast cs
  let start := Decoder.between (ascii.map Char.toNat) firstCode 0 firstBias
  let last ← numbers.foldlM Decoder.step start
  if last.weight = 1 && last.position = base && last.label.all (fun n => Nat.isValidChar n) then
    some (last.label.map Char.ofNat)
  else none

end KeyClient.Domain.Punycode
