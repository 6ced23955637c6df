import KeyClient.Domain.Mapping.Table

/-!
# The domain mapping

`Domain.mapAll?` replaces the characters of a domain name by those that stand for them: capital
letters by small ones, wide letters by narrow ones, every kind of full stop by a dot.  A name with
a character that no domain name may have is refused.
-/

namespace KeyClient.Domain

open KeyClient.Text

/-- What a character beyond ASCII becomes in a domain name. -/
def lookUp? (c : Char) : Option (List Char) :=
  match Mapping.mapped.find? c.toNat with
  | some data => some (data.map Char.ofNat)
  | none =>
    if Mapping.valid.contains c.toNat then some [c]
    else if Mapping.ignored.contains c.toNat then some []
    else none

/-- What a character of a domain name becomes. -/
def map? (c : Char) : Option (List Char) := if c.toNat < 128 then some [c.toLower] else lookUp? c

/-- What a domain name becomes. -/
def mapAll? (cs : List Char) : Option (List Char) := (cs.mapM map?).map List.flatten

end KeyClient.Domain
