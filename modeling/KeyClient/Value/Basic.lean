import KeyClient.Number.Numeral
import KeyClient.Number.Text

/-!
# Dynamic values

What configuration files, reports and flags hold: `Value`.  An object lists its members in the
order in which they are enumerated: keys that are array indices first, in ascending order, then
all others in the order of their first insertion.  `Members.insert` keeps that order and
`Value.ofEntries` builds an object with it.
-/

namespace KeyClient

/-- A dynamic value; the members of an object stand in the order of their enumeration. -/
inductive Value where
  | undefined
  | null
  | bool (value : Bool)
  | number (value : Number)
  | string (value : String)
  | array (items : List Value)
  | object (members : List (String × Value))
deriving Repr, Inhabited, BEq

/-- The members of an object. -/
abbrev Members := List (String × Value)

namespace Members

/-- The greatest key that counts as an array index. -/
def greatestIndex : Nat := 4294967294

/-- The array index that a key spells: digits without a leading zero, up to `greatestIndex`. -/
def index? (key : String) : Option Nat :=
  let digits := key.toList
  let n := Nat.ofDigitChars 10 digits 0
  if digits.all Char.isDigit && Nat.toDigits 10 n == digits && n ≤ greatestIndex then some n
  else none

/-- Whether a new member with the first key is enumerated before one with the second. -/
def precedes (key other : String) : Bool :=
  match index? key, index? other with
  | some i, some j => i < j
  | some _, none => true
  | none, _ => false

/-- Set a member: an old one keeps its place, a new one goes to the place of its key. -/
def insert (key : String) (value : Value) : Members → Members
  | [] => [(key, value)]
  | (k, v) :: rest =>
    if k = key then (k, value) :: rest
    else if precedes key k then (key, value) :: (k, v) :: rest
    else (k, v) :: insert key value rest

/-- The members that result from setting the entries one after another. -/
def ofEntries (entries : List (String × Value)) : Members :=
  entries.foldl (fun members entry => members.insert entry.1 entry.2) []

/-- The value of a member, if there is one with that key. -/
def get? (members : Members) (key : String) : Option Value := members.lookup key

/-- A member just set is found. -/
@[simp] theorem get?_insert_self (key : String) (value : Value) (members : Members) :
    (members.insert key value).get? key = some value := by
  induction members with
  | nil => simp [insert, get?]
  | cons entry rest ih =>
    obtain ⟨k, v⟩ := entry
    simp only [get?] at ih
    by_cases same : k = key
    · simp [insert, get?, same]
    · have differs : (key == k) = false := by simpa using fun h => same h.symm
      by_cases first : precedes key k
      · simp [insert, get?, same, first]
      · simp [insert, get?, same, first, List.lookup_cons, differs, ih]

end Members

namespace Value

/-- The object that results from setting the entries one after another. -/
def ofEntries (entries : List (String × Value)) : Value := object (Members.ofEntries entries)

/-- A whole number as a value. -/
def ofNat (n : Nat) : Value := number (.integer n)

/-- The value of a member; what is no object, or lacks the member, has `undefined` there. -/
def field (value : Value) (key : String) : Value :=
  match value with
  | object members => (members.lookup key).getD undefined
  | _ => undefined

/-- Whether the value stands for a missing one. -/
def isNullish : Value → Bool
  | undefined | null => true
  | _ => false

/-- The value, or another one in place of a missing one. -/
def orElse (value other : Value) : Value := if value.isNullish then other else value

/-- Whether a condition takes the value for true. -/
def isTruthy : Value → Bool
  | undefined | null | bool false | string "" => false
  | number n => !(n == .nan || n == .negativeZero || n == .integer 0)
  | _ => true

/-- The word for the kind of a value. -/
def kind : Value → String
  | undefined => "undefined"
  | null => "null"
  | bool _ => "boolean"
  | number .nan => "nan"
  | number _ => "number"
  | string _ => "string"
  | array _ => "array"
  | object _ => "object"

/-- The operation by which objects are turned into texts; a member with this name hides it. -/
def conversion : String := "toString"

mutual

/-- The value as plain text, if it has one; an array is the texts of its items with commas between
them.  An object whose conversion is hidden has no text, since no member is an operation. -/
def text? : Value → Option String
  | undefined => some "undefined"
  | null => some "null"
  | bool b => some (toString b)
  | number n => some n.text
  | string s => some s
  | array items => (itemTexts? items).map ",".intercalate
  | object members =>
    if (members.lookup conversion).isSome then none else some "[object Object]"

/-- The texts of the items of an array; that of a missing item is empty. -/
def itemTexts? : List Value → Option (List String)
  | [] => some []
  | item :: rest => do
    let text ← if item.isNullish then some "" else item.text?
    let texts ← itemTexts? rest
    return text :: texts

end

/-- The number that a value converts to, if it converts to one. -/
def toNumber? : Value → Option Number
  | undefined => some .nan
  | null | bool false => some (.integer 0)
  | bool true => some (.integer 1)
  | number n => some n
  | value => value.text?.map Number.ofText

/-- The number that a value converts to; what converts to none counts as not-a-number. -/
def toNumber (value : Value) : Number := value.toNumber?.getD .nan

end Value

end KeyClient
