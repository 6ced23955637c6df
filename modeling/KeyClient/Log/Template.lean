import KeyClient.Json.Writer
import KeyClient.Value.Display

/-!
# Templates

A text with values behind it may say where they go: a percent sign and a letter are replaced by
the next value, in the way of the letter.  `Template.format` does so and puts the values that are
left over at the end; it fails if a value cannot be put in its place.  Without values a text stays as
it is.
-/

namespace KeyClient.Log.Template

/-- The value as it is shown without a placeholder: texts as they are, all else displayed. -/
def shown (format : DisplayFormat) : Value → String
  | .string s => s
  | v => v.display format

/-- How far values are opened at the end of a text. -/
def plain : DisplayFormat := .upTo 2

/-- How far values are opened in detail. -/
def detailed : DisplayFormat := { DisplayFormat.upTo 4 with showsLength := true }

/-- How a value is put in place of a percent sign and a letter, if the letter stands for a way of
doing so; a value that converts to no text has no place among numbers. -/
def way? : Char → Option (Value → Option String)
  | 's' => some fun v => some (shown (.upTo 0) v)
  | 'd' => some fun v => v.toNumber?.map Display.number
  | 'i' => some fun v => v.text?.map fun text => Display.number (Number.leadingWhole text)
  | 'f' => some fun v => v.text?.map fun text => Display.number (Number.leadingDecimal text)
  | 'j' => some fun v => some (Json.compact v)
  | 'O' => some fun v => some (v.display plain)
  | 'o' => some fun v => some (v.display detailed)
  | 'c' => some fun _ => some ""
  | _ => none

/-- The text with its placeholders replaced, and the values that are left over, unless a value
cannot be put in its place. -/
def fill : List Char → List Value → Option (List Char × List Value)
  | '%' :: '%' :: cs, values => do
    let (text, rest) ← fill cs values
    return ('%' :: text, rest)
  | '%' :: letter :: cs, value :: values =>
    match way? letter with
    | some way => do
      let placed ← way value
      let (text, rest) ← fill cs values
      return (placed.toList ++ text, rest)
    | none => do
      let (text, rest) ← fill cs (value :: values)
      return ('%' :: letter :: text, rest)
  | c :: cs, values => do
    let (text, rest) ← fill cs values
    return (c :: text, rest)
  | [], values => some ([], values)

/-- The text with the values behind it. -/
def format (text : String) (values : List Value) : Option String :=
  if values.isEmpty then some text
  else do
    let (filled, rest) ← fill text.toList values
    return String.ofList filled ++ String.join (rest.map fun v => " " ++ shown plain v)

end KeyClient.Log.Template
