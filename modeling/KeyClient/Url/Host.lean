import KeyClient.Domain.Basic
import KeyClient.Url.Address

/-!
# Hosts

The host of an address is a domain name, a numeric address or, with a scheme that is not special,
any text.  The main definitions are the type `Host`, `Host.parse?` and `Host.text`.
-/

namespace KeyClient.Url

/-- Where a server is found. -/
inductive Host where
  | domain (name : List Char)
  | ipv4 (address : Nat)
  | ipv6 (groups : List Nat)
  | plain (text : List Char)
deriving DecidableEq, Repr

namespace Host

/-- The characters that no host may contain. -/
def isForbidden (c : Char) : Bool :=
  ['\x00', '\t', '\n', '\r', ' ', '#', '/', ':', '<', '>', '?', '@', '[', '\\', ']', '^',
    '|'].contains c

/-- The characters that no domain name may contain. -/
def isForbiddenInDomain (c : Char) : Bool :=
  isForbidden c || c.toNat < 0x20 || c.toNat == 0x7F || c == '%'

/-- The host that a name stands for once its encoded characters are read. -/
def ofDomain? (name : List Char) : Option Host := do
  let ascii ← Domain.toAscii? (Text.Utf8.decode (Percent.decode name))
  if ascii.isEmpty || ascii.any isForbiddenInDomain then none
  else if Ipv4.endsInNumber ascii then (Ipv4.parse? ascii).map ipv4
  else some (domain ascii)

/-- The host that a text stands for; `special` says whether the scheme requires a domain. -/
def parse? (special : Bool) (cs : List Char) : Option Host :=
  if cs.head? == some '[' then
    if cs.getLast? == some ']' then (Ipv6.parse? cs.tail.dropLast).map ipv6 else none
  else if special then ofDomain? cs
  else if cs.any isForbidden then none
  else some (plain (Percent.encode Percent.controls cs))

/-- The host as text. -/
def text : Host → List Char
  | domain name => name
  | ipv4 address => Ipv4.text address
  | ipv6 groups => '[' :: (Ipv6.text groups ++ [']'])
  | plain text => text

end Host

end KeyClient.Url
