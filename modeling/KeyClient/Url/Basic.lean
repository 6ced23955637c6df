import KeyClient.Url.Host
import KeyClient.Url.Path
import KeyClient.Url.Query

/-!
# Addresses

An address has a scheme, perhaps a server, a path, and perhaps a query and a fragment.  `parse?`
takes a text apart from the outside in: the fragment behind the first number sign, the query
behind the first question mark, the scheme before the first colon; what is left holds the server
and the path.  `text` puts the parts together again, and `withQuery` replaces the query.
-/

namespace KeyClient

/-- An absolute address. -/
structure Url where
  scheme : List Char
  username : List Char
  password : List Char
  host : Option Url.Host
  port : Option Nat
  path : Url.Path
  query : Option (List Char)
  fragment : Option (List Char)
deriving DecidableEq, Repr

namespace Url

/-! ## Schemes -/

/-- The schemes that need a server, with the port each of them has by default. -/
def specialSchemes : List (List Char × Option Nat) :=
  [("http".toList, some 80), ("https".toList, some 443), ("ws".toList, some 80),
    ("wss".toList, some 443), ("ftp".toList, some 21), ("file".toList, none)]

/-- Whether the scheme is one of those that need a server. -/
def isSpecial (scheme : List Char) : Bool := (specialSchemes.lookup scheme).isSome

/-- The port that need not be given with the scheme. -/
def defaultPort? (scheme : List Char) : Option Nat := (specialSchemes.lookup scheme).join

/-- Whether the scheme is that of files. -/
def isFile (scheme : List Char) : Bool := scheme == "file".toList

/-- Whether the character may stand in a scheme. -/
def isSchemeChar (c : Char) : Bool := c.isAlphanum || ['+', '-', '.'].contains c

/-- The scheme of a text, in lower case, and what follows its colon. -/
def cutScheme? (cs : List Char) : Option (List Char × List Char) :=
  match Text.cut (· == ':') cs with
  | (c :: name, some rest) =>
    if c.isAlpha && name.all isSchemeChar then some ((c :: name).map Char.toLower, rest) else none
  | _ => none

/-- How the scheme treats the paths of its addresses. -/
def pathStyle (scheme : List Char) : Path.Style :=
  if isFile scheme then .file else if isSpecial scheme then .server else .other

/-! ## Servers -/

/-- The part of an address between the two slashes and the path. -/
structure Authority where
  username : List Char
  password : List Char
  host : Host
  port : Option Nat
deriving DecidableEq, Repr

/-- The host and the port of a text, which a colon outside brackets separates. -/
def cutPort (inBrackets : Bool) : List Char → List Char × Option (List Char)
  | [] => ([], none)
  | c :: cs =>
    if c = ':' && !inBrackets then ([], some cs)
    else
      let inBrackets := if c = '[' then true else if c = ']' then false else inBrackets
      let (host, port) := cutPort inBrackets cs
      (c :: host, port)

/-- The greatest port. -/
def greatestPort : Nat := 65535

/-- The port that a text stands for: none if it is empty or the default one of the scheme. -/
def port? (scheme cs : List Char) : Option (Option Nat) :=
  if cs.isEmpty then some none
  else if cs.all Char.isDigit then
    let n := Nat.ofDigitChars 10 cs 0
    if greatestPort < n then none
    else some (if defaultPort? scheme = some n then none else some n)
  else none

/-- User name, password and the rest of the text behind the last at sign; `none` without one. -/
def cutUser? (cs : List Char) : Option (List Char × List Char × List Char) :=
  match Text.cut (· == '@') cs.reverse with
  | (_, none) => none
  | (rest, some user) =>
    let (name, password) := Text.cut (· == ':') user.reverse
    some (name, password.getD [], rest.reverse)

/-- The server that a text names. -/
def authority? (scheme cs : List Char) : Option Authority := do
  let (name, password, rest) := (cutUser? cs).getD ([], [], cs)
  let (host, port) := cutPort false rest
  if host.isEmpty && (isSpecial scheme || port.isSome || (cutUser? cs).isSome) then none
  else
    let host ← Host.parse? (isSpecial scheme) host
    let port ← port? scheme (port.getD [])
    let user := Percent.encode Percent.userinfo name
    some ⟨user, Percent.encode Percent.userinfo password, host, port⟩

/-! ## Parsing -/

/-- The address with its server and the path behind it. -/
def ofServer? (scheme cs : List Char) : Option Url := do
  let style := pathStyle scheme
  let (server, path) := Text.cut style.isSlash cs
  let ⟨username, password, host, port⟩ ← authority? scheme server
  let path :=
    if path.isNone && style = .other then .segments [] else Path.ofText style (path.getD [])
  some ⟨scheme, username, password, some host, port, path, none, none⟩

/-- The host of a file; the machine itself has no name. -/
def fileHost? (cs : List Char) : Option Host :=
  if cs.isEmpty then some (.plain [])
  else (Host.parse? true cs).map fun host =>
    if host = .domain "localhost".toList then .plain [] else host

/-- The address of a file with the given host. -/
def ofFile (host : Host) (path : List Char) : Url :=
  ⟨"file".toList, [], [], some host, none, Path.ofText .file path, none, none⟩

/-- The address of a file: a host stands between two slashes and the path, unless it is a drive. -/
def ofFile? (cs : List Char) : Option Url :=
  match cs with
  | a :: rest =>
    if Path.Style.file.isSlash a then
      match rest with
      | b :: rest =>
        if Path.Style.file.isSlash b then
          let (host, path) := Text.cut Path.Style.file.isSlash rest
          if Path.isDrive host then some (ofFile (.plain []) rest)
          else (fileHost? host).map fun host => ofFile host (path.getD [])
        else some (ofFile (.plain []) (b :: rest))
      | [] => some (ofFile (.plain []) [])
    else some (ofFile (.plain []) cs)
  | [] => some (ofFile (.plain []) [])

/-- The address with a scheme that is not special. -/
def ofOther? (scheme : List Char) : List Char → Option Url
  | '/' :: '/' :: rest => ofServer? scheme rest
  | '/' :: rest =>
    some ⟨scheme, [], [], none, none, Path.ofText .other rest, none, none⟩
  | rest =>
    some ⟨scheme, [], [], none, none, .plain (Percent.encode Percent.controls rest), none, none⟩

/-- The address of a text without query and fragment. -/
def ofHierarchy? (cs : List Char) : Option Url := do
  let (scheme, rest) ← cutScheme? cs
  if isFile scheme then ofFile? rest
  else if isSpecial scheme then ofServer? scheme (rest.dropWhile Path.Style.server.isSlash)
  else ofOther? scheme rest

/-- Whether the character is dropped at the ends of an address. -/
def isEdge (c : Char) : Bool := c.toNat ≤ 0x20

/-- Whether the character is dropped anywhere in an address. -/
def isBreak (c : Char) : Bool := c == '\t' || c == '\n' || c == '\r'

/-- The text without the characters that no address keeps. -/
def clean (cs : List Char) : List Char :=
  (((cs.dropWhile isEdge).reverse.dropWhile isEdge).reverse).filter fun c => !isBreak c

/-- What may not stand in the query of an address with the scheme. -/
def querySet (scheme : List Char) : Percent.EncodeSet :=
  if isSpecial scheme then Percent.specialQuery else Percent.query

/-- The address that a text stands for. -/
def parse? (cs : List Char) : Option Url := do
  let (rest, fragment) := Text.cut (· == '#') (clean cs)
  let (rest, query) := Text.cut (· == '?') rest
  let url ← ofHierarchy? rest
  some { url with
    query := query.map (Percent.encode (querySet url.scheme))
    fragment := fragment.map (Percent.encode Percent.fragment) }

/-! ## Writing -/

/-- User name and password with the at sign, if there are any. -/
def userText (url : Url) : List Char :=
  if url.username.isEmpty && url.password.isEmpty then []
  else url.username ++ (if url.password.isEmpty then [] else ':' :: url.password) ++ ['@']

/-- The server with its slashes; without one, a path must not look like one. -/
def serverText (url : Url) : List Char :=
  match url.host, url.path with
  | some host, _ =>
    '/' :: '/' :: (userText url ++ host.text ++
      ((url.port.map fun n => ':' :: numeral 10 n).getD []))
  | none, .segments ([] :: _ :: _) => ['/', '.']
  | none, _ => []

/-- The address as text. -/
def text (url : Url) : List Char :=
  url.scheme ++ ':' :: (serverText url ++ url.path.text ++
    ((url.query.map ('?' :: ·)).getD []) ++ ((url.fragment.map ('#' :: ·)).getD []))

/-! ## Another query -/

/-- The text without a question mark in front of it. -/
def dropMark : List Char → List Char
  | '?' :: cs => cs
  | cs => cs

/-- The address with another text as its query, with or without its question mark; an empty text
takes the query away. -/
def withSearch (url : Url) (search : List Char) : Url :=
  if search.isEmpty then
    { url with query := none, path := if url.fragment.isNone then url.path.trimEnd else url.path }
  else
    let kept := (dropMark search).filter fun c => !isBreak c
    { url with query := some (Percent.encode (querySet url.scheme) kept) }

/-- The address with another query. -/
def withQuery (url : Url) (query : Query) : Url := url.withSearch query.encode

end Url

end KeyClient
