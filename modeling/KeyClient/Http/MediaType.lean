import KeyClient.Text.Split

/-!
# Media types

A media type has a type, a subtype and named parameters.  `MediaType.parse?` reads one and
`MediaType.text` writes it, with quotes around values that are no plain words.
-/

namespace KeyClient.Http

/-- A media type. -/
structure MediaType where
  type : List Char
  subtype : List Char
  parameters : List (List Char × List Char)
deriving DecidableEq, Repr

namespace MediaType

/-- Whether the character may stand in a plain word. -/
def isWordChar (c : Char) : Bool :=
  c.isAlphanum || "!#$%&'*+-.^_|~".toList.contains c

/-- Whether the text is a plain word. -/
def isWord (cs : List Char) : Bool := !cs.isEmpty && cs.all isWordChar

/-- Whether the character may stand between the parts. -/
def isSpace (c : Char) : Bool := [' ', '\t', '\r', '\n'].contains c

/-- The text without spaces at its end. -/
def trimEnd (cs : List Char) : List Char := (cs.reverse.dropWhile isSpace).reverse

/-- A plain value: what follows its first character loses the spaces at its end. -/
def plain : List Char → List Char
  | [] => []
  | c :: cs => c :: trimEnd cs

/-- Small letters for capital ones. -/
def lower (cs : List Char) : List Char := cs.map Char.toLower

/-- What stands up to the closing quote, without escapes, and what follows it. -/
def quoted : List Char → List Char × List Char
  | [] => ([], [])
  | '\"' :: cs => ([], cs)
  | '\\' :: [] => (['\\'], [])
  | '\\' :: c :: cs => let (text, rest) := quoted cs; (c :: text, rest)
  | c :: cs => let (text, rest) := quoted cs; (c :: text, rest)

theorem length_quoted (cs : List Char) : (quoted cs).2.length ≤ cs.length := by
  fun_induction quoted cs <;> simp_all <;> omega

/-- What follows the next semicolon. -/
def afterSemicolon (cs : List Char) : List Char := (cs.dropWhile (· != ';')).tail

theorem length_afterSemicolon (cs : List Char) : (afterSemicolon cs).length ≤ cs.length := by
  have := (List.dropWhile_suffix (l := cs) (· != ';')).length_le
  simp only [afterSemicolon, List.length_tail]
  omega

/-- Add a parameter, unless its name is no word or taken. -/
def addParameter (parameters : List (List Char × List Char)) (name value : List Char) :
    List (List Char × List Char) :=
  if isWord name && !(parameters.any fun p => p.1 == name) then parameters ++ [(name, value)]
  else parameters

/-- One parameter from the start of a text, whose first character is not a semicolon before it:
its name, its value if it has one, and what follows the next semicolon. -/
def parameter (cs : List Char) : List Char × Option (List Char) × List Char :=
  let cs := cs.dropWhile isSpace
  let name := cs.takeWhile fun c => c != ';' && c != '='
  match cs.dropWhile fun c => c != ';' && c != '=' with
  | '=' :: '\"' :: rest =>
    let (value, rest) := quoted rest
    (lower name, some value, afterSemicolon rest)
  | '=' :: rest =>
    let value := plain (rest.takeWhile (· != ';'))
    (lower name, if value.isEmpty then none else some value, afterSemicolon rest)
  | rest => (lower name, none, rest.tail)

theorem length_parameter (c : Char) (cs : List Char) :
    (parameter (c :: cs)).2.2.length ≤ cs.length := by
  have trimmed := (List.dropWhile_suffix (l := c :: cs) isSpace).length_le
  have named := (List.dropWhile_suffix (l := (c :: cs).dropWhile isSpace)
    fun c => c != ';' && c != '=').length_le
  simp only [List.length_cons] at trimmed
  simp only [parameter]
  split
  · rename_i rest eq
    have := length_quoted rest
    have := length_afterSemicolon (quoted rest).2
    rw [eq] at named
    simp only [List.length_cons] at named
    show (afterSemicolon _).length ≤ _
    omega
  · rename_i rest _ eq
    have := length_afterSemicolon rest
    rw [eq] at named
    simp only [List.length_cons] at named
    show (afterSemicolon _).length ≤ _
    omega
  · simp only [List.length_tail]
    omega

/-- The parameters of a text behind those found before. -/
def parametersOf (found : List (List Char × List Char)) : List Char →
    List (List Char × List Char)
  | [] => found
  | c :: cs =>
    let name := (parameter (c :: cs)).1
    let value := (parameter (c :: cs)).2.1
    parametersOf ((value.map (addParameter found name)).getD found) (parameter (c :: cs)).2.2
termination_by cs => cs.length
decreasing_by
  have := length_parameter c cs
  simp only [List.length_cons]
  omega

/-- The media type that a text stands for. -/
def parse? (cs : List Char) : Option MediaType :=
  match Text.cut (· == '/') (trimEnd (cs.dropWhile isSpace)) with
  | (_, none) => none
  | (type, some rest) =>
    let (subtype, parameters) := Text.cut (· == ';') rest
    let subtype := trimEnd subtype
    if isWord type && isWord subtype then
      some ⟨lower type, lower subtype, parametersOf [] (parameters.getD [])⟩
    else none

/-- A value, in quotes unless it is a plain word. -/
def valueText (value : List Char) : List Char :=
  if isWord value then value
  else
    '\"' :: (value.flatMap (fun c => if c = '\\' || c = '\"' then ['\\', c] else [c]) ++ ['\"'])

/-- The media type as text. -/
def text (m : MediaType) : List Char :=
  m.type ++ '/' :: m.subtype ++
    m.parameters.flatMap fun (name, value) => ';' :: name ++ '=' :: valueText value

end MediaType

end KeyClient.Http
