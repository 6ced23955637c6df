import KeyClient.Domain.Label
import KeyClient.Domain.Mapping
import KeyClient.Domain.Punycode
import KeyClient.Text.Normal

/-!
# Domain names

`Domain.toAscii?` brings a domain name into the form in which it is looked up: mapped, composed
and with every label beyond ASCII encoded.  Labels that are encoded already are kept, if they are
what encoding yields.
-/

namespace KeyClient.Domain

/-- Whether all characters are ASCII. -/
def isAscii (cs : List Char) : Bool := cs.all fun c => c.toNat < 128

/-- Whether an encoded label stands for a label that is mapped, composed and well formed. -/
def isEncoding (label : List Char) : Bool :=
  match Punycode.decode? (label.drop Label.encodedMark.length) with
  | none => false
  | some decoded =>
    mapAll? decoded == some decoded && Text.Normal.normalize decoded == decoded &&
      Label.isValid decoded

/-- The ASCII form of a mapped and composed label. -/
def labelToAscii? (label : List Char) : Option (List Char) :=
  if Label.encodedMark.isPrefixOf label then
    if isAscii label && isEncoding label then some label else none
  else if isAscii label then some label
  else if Label.isValid label then some (Label.encodedMark ++ Punycode.encode label)
  else none

/-- The labels of a name in their ASCII forms. -/
def labelsToAscii? (name : List Char) : Option (List Char) :=
  ((Text.split (· == '.') name).mapM labelToAscii?).map (Text.join ['.'])

/-- The ASCII form of a domain name. -/
def toAscii? (name : List Char) : Option (List Char) :=
  if isAscii name then labelsToAscii? (name.map Char.toLower)
  else (mapAll? name).bind fun mapped => labelsToAscii? (Text.Normal.normalize mapped)

end KeyClient.Domain
