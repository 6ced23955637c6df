import KeyClient.Http.MediaType
import KeyClient.Url.Percent

/-!
# Addresses that hold their data

The path of such an address is a media type, a comma and the data themselves, plain or in base
64.  `DataUrl.mediaType?` is the media type of the data, if they can be read.
-/

namespace KeyClient.Http.DataUrl

/-- Whether the character is a blank of ASCII. -/
def isBlank (c : Char) : Bool := [' ', '\t', '\n', '\x0c', '\r'].contains c

/-- The text without blanks at its ends. -/
def trim (cs : List Char) : List Char :=
  ((cs.dropWhile isBlank).reverse.dropWhile isBlank).reverse

/-- The word that announces data in base 64, from right to left. -/
def reversedMark : List Char := "base64".toList.reverse

/-- The media type in front of the announcement of base 64, if there is one. -/
def cutMark? (cs : List Char) : Option (List Char) :=
  let reversed := cs.reverse
  if reversedMark.isPrefixOf (reversed.map Char.toLower) then
    match (reversed.drop reversedMark.length).dropWhile (· == ' ') with
    | ';' :: rest => some rest.reverse
    | _ => none
  else none

/-- Whether the character is a digit of base 64. -/
def isDigit (c : Char) : Bool := c.isAlphanum || c == '+' || c == '/'

/-- The text without at most two equals signs that fill up its last group of four. -/
def dropFilling (cs : List Char) : List Char :=
  if cs.length % 4 = 0 then
    match cs.reverse with
    | '=' :: '=' :: rest | '=' :: rest => rest.reverse
    | _ => cs
  else cs

/-- Whether the text holds data in base 64; blanks do not count. -/
def isBase64 (cs : List Char) : Bool :=
  let digits := dropFilling (cs.filter fun c => !isBlank c)
  digits.length % 4 != 1 && digits.all isDigit

/-- The media type of data without one. -/
def defaultType : MediaType :=
  ⟨"text".toList, "plain".toList, [("charset".toList, "US-ASCII".toList)]⟩

/-- The media type that the text before the comma stands for. -/
def typeOf (cs : List Char) : MediaType :=
  let cs := if cs.head? = some ';' then "text/plain".toList ++ cs else cs
  (MediaType.parse? cs).getD defaultType

/-- The media type of the data in an address, given without scheme and fragment. -/
def mediaType? (cs : List Char) : Option MediaType :=
  match Text.cut (· == ',') cs with
  | (_, none) => none
  | (type, some data) =>
    let type := trim type
    match cutMark? type with
    | some type =>
      let octets := Url.Percent.decode data
      if isBase64 (octets.map fun octet => Char.ofNat octet.toNat) then some (typeOf type) else none
    | none => some (typeOf type)

end KeyClient.Http.DataUrl
