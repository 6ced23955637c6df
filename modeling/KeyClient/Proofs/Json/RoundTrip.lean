import KeyClient.Proofs.Json.Token
import KeyClient.Proofs.Value.Members
import KeyClient.Json.Reader
import Mathlib.Data.List.Forall2

/-!
# Values are read back

What is written of a value is read back as its normal form (`Json.read?_pretty`): what JSON cannot
express is `null` in it, the zero without a sign, or left out.  Scanner and reader are taken
together: a text denotes a value (`Json.Denotes`) if reading it delivers the value to whatever waits
for one, and texts of containers denote if the texts of their entries do.
-/

namespace KeyClient

/-- The number is written and read back without rounding. -/
def Number.IsExact : Number → Prop
  | .integer value => value.natAbs < exactBound
  | .fraction .. => False
  | _ => True

namespace Value

/-! ## Normal forms -/

/-- A number as JSON can express it. -/
def ofFinite : Number → Value
  | .nan | .infinity _ => .null
  | .negativeZero => .number (.integer 0)
  | n => .number n

mutual

/-- The value as JSON can express it. -/
def normal : Value → Value
  | .undefined | .null => .null
  | .bool b => .bool b
  | .number n => ofFinite n
  | .string s => .string s
  | .array items => .array (normalItems items)
  | .object members => .object (Members.ofEntries (normalMembers members))

/-- The items as JSON can express them. -/
def normalItems : List Value → List Value
  | [] => []
  | item :: rest => normal item :: normalItems rest

/-- The members that are not undefined as JSON can express them. -/
def normalMembers : Members → Members
  | [] => []
  | (_, .undefined) :: rest => normalMembers rest
  | (key, value) :: rest => (key, normal value) :: normalMembers rest

end

mutual

/-- All numbers in the value are exact. -/
def IsExact : Value → Prop
  | .number n => n.IsExact
  | .array items => AreExact items
  | .object members => HasExact members
  | _ => True

/-- All numbers in the items are exact. -/
def AreExact : List Value → Prop
  | [] => True
  | item :: rest => IsExact item ∧ AreExact rest

/-- All numbers in the members are exact. -/
def HasExact : Members → Prop
  | [] => True
  | (_, value) :: rest => IsExact value ∧ HasExact rest

end

end Value

namespace Json

/-! ## Scanner and reader together -/

/-- Where reading a text leads from where the reader stands between two tokens. -/
def readFrom (reader : Reader) (cs : List Char) : Option Reader :=
  (Scanner.between.run cs).bind (·.foldlM Reader.step reader)

theorem read?_eq (cs : List Char) :
    read? cs = (readFrom (.value []) cs).bind fun
      | .finished value => some value
      | _ => none := by
  unfold read? readFrom
  rw [Scanner.scan?_eq_run]
  cases Scanner.between.run cs with
  | none => rfl
  | some tokens =>
    simp only [Option.bind_some, ofTokens?]
    cases tokens.foldlM Reader.step (.value []) with
    | none => rfl
    | some reader => cases reader <;> rfl

/-- One token and the text behind it. -/
theorem readFrom_of_run {cs rest : List Char} {token : Token}
    (h : Scanner.between.run cs = (Scanner.between.run rest).map (token :: ·)) (reader : Reader) :
    readFrom reader cs = (reader.step token).bind (readFrom · rest) := by
  unfold readFrom
  rw [h]
  cases Scanner.between.run rest with
  | none => cases reader.step token <;> rfl
  | some tokens => simp [List.foldlM_cons]

theorem readFrom_quote (s : String) (rest : List Char) (reader : Reader) :
    readFrom reader (quote s ++ rest) =
      (reader.step (.literal (.string s))).bind (readFrom · rest) :=
  readFrom_of_run (Scanner.run_quote s rest) reader

/-- A mark is one token. -/
theorem readFrom_mark {c : Char} {token : Token}
    (mark : Scanner.between.step c = some ([token], .between)) (rest : List Char)
    (reader : Reader) :
    readFrom reader (c :: rest) = (reader.step token).bind (readFrom · rest) :=
  readFrom_of_run (Scanner.run_of_step mark rest) reader

theorem readFrom_blank {c : Char} (blank : Scanner.between.step c = some ([], .between))
    (rest : List Char) (reader : Reader) : readFrom reader (c :: rest) = readFrom reader rest := by
  unfold readFrom
  rw [Scanner.run_of_step_nil blank]

/-- Indentation does not count. -/
theorem readFrom_lineBreak (indent : Indent) (level : Nat) (rest : List Char) (reader : Reader) :
    readFrom reader (lineBreak indent level ++ rest) = readFrom reader rest := by
  cases indent with
  | none => rfl
  | some width =>
    rw [lineBreak, List.cons_append, readFrom_blank rfl]
    generalize width * level = n
    induction n with
    | zero => rfl
    | succ n ih => rw [List.replicate_succ, List.cons_append, readFrom_blank rfl, ih]

theorem readFrom_colon (indent : Indent) (rest : List Char) (reader : Reader) :
    readFrom reader (colon indent ++ rest) = (reader.step .colon).bind (readFrom · rest) := by
  cases indent with
  | none => exact readFrom_mark rfl rest reader
  | some width =>
    have blank : ∀ reader, readFrom reader (' ' :: rest) = readFrom reader rest :=
      readFrom_blank rfl rest
    calc readFrom reader (colon (some width) ++ rest)
        = (reader.step .colon).bind (readFrom · (' ' :: rest)) := readFrom_mark rfl _ reader
      _ = (reader.step .colon).bind (readFrom · rest) := by simp only [blank]

/-! ## Texts that denote values -/

/-- The reader takes the next value for an entry of the innermost container. -/
def Reader.Awaits (frames : List Frame) : Reader → Prop
  | .value waiting => waiting = frames
  | .firstItem outer => .array [] :: outer = frames
  | _ => False

/-- A value starts where the reader waits for one. -/
theorem Reader.Awaits.step {frames : List Frame} {reader : Reader} (h : reader.Awaits frames)
    {token : Token} (opens : token ≠ .closeBracket) :
    reader.step token = startValue frames token := by
  cases reader with
  | value waiting =>
    cases h
    rfl
  | firstItem outer =>
    cases h
    cases token <;> first | rfl | exact absurd rfl opens
  | _ => cases h

/-- No word goes on with the text. -/
def Stops (cs : List Char) : Prop := ∀ c ∈ cs.head?, Scanner.isWordChar c = false

/-- Reading the text delivers the value to what waits for one. -/
def Denotes (cs : List Char) (v : Value) : Prop :=
  ∀ ⦃reader : Reader⦄ ⦃frames : List Frame⦄, reader.Awaits frames → ∀ ⦃rest : List Char⦄,
    Stops rest → readFrom reader (cs ++ rest) = readFrom (Reader.deliver v frames) rest

theorem denotes_of_run {cs : List Char} {v : Value}
    (h : ∀ rest, Stops rest → Scanner.between.run (cs ++ rest) =
      (Scanner.between.run rest).map (.literal v :: ·)) : Denotes cs v := by
  intro reader frames awaits rest stops
  have taken : reader.step (.literal v) = Reader.startValue frames (.literal v) :=
    awaits.step nofun
  rw [readFrom_of_run (h rest stops), taken]
  rfl

theorem denotes_quote (s : String) : Denotes (quote s) (.string s) :=
  denotes_of_run fun rest _ => Scanner.run_quote s rest

theorem denotes_word {w : List Char} (all : w.all Scanner.isWordChar = true) {v : Value}
    (value : Scanner.wordValue? w = some v) : Denotes w v :=
  denotes_of_run fun _ stops => Scanner.run_whole_word (List.all_eq_true.1 all) value stops

theorem denotes_null : Denotes "null".toList .null :=
  denotes_word (by decide) Scanner.wordValue?_null

theorem denotes_bool (b : Bool) : Denotes (toString b).toList (.bool b) :=
  denotes_word (by cases b <;> decide) (Scanner.wordValue?_bool b)

/-- A number is written as one word. -/
theorem denotes_number {n : Number} (exact : n.IsExact) :
    Denotes (number n).toList (Value.ofFinite n) := by
  cases n with
  | nan => exact denotes_null
  | infinity => exact denotes_null
  | negativeZero =>
    have zero : Scanner.number? ['0'] = some (.integer 0) :=
      (Scanner.number?_toDigits (by decide : 0 < Number.exactBound)).1
    have value : Scanner.wordValue? ['0'] = some (.number (.integer 0)) := by
      rw [Scanner.wordValue?_of_number (.inl rfl), zero, Option.map_some]
    exact denotes_word (by decide) value
  | fraction => exact exact.elim
  | integer i =>
    obtain ⟨plain, signed⟩ := Scanner.number?_toDigits exact
    obtain ⟨c, cs, front, digit⟩ := Scanner.head_toDigits i.natAbs
    have word : (Nat.toDigits 10 i.natAbs).all Scanner.isWordChar = true :=
      List.all_eq_true.2 fun c mem => Scanner.isWordChar_of_isDigit (isDigit_of_mem_toDigits mem)
    have small : i.natAbs < Number.exactBound := exact
    by_cases negative : i < 0
    · have text : (number (.integer i)).toList = '-' :: Nat.toDigits 10 i.natAbs := by
        simp [number, Number.text, Number.signed, negative, small]
      have value : Scanner.wordValue? ('-' :: Nat.toDigits 10 i.natAbs) =
          some (.number (.integer i)) := by
        have same : -(i.natAbs : Int) = i := by omega
        rw [Scanner.wordValue?_of_number (.inr rfl), signed, if_neg (by omega), Option.map_some,
          same]
      have all : ('-' :: Nat.toDigits 10 i.natAbs).all Scanner.isWordChar = true := by
        rw [List.all_cons, word]
        rfl
      rw [text]
      exact denotes_word all value
    · have text : (number (.integer i)).toList = Nat.toDigits 10 i.natAbs := by
        simp [number, Number.text, Number.signed, negative, small]
      have value : Scanner.wordValue? (Nat.toDigits 10 i.natAbs) = some (.number (.integer i)) := by
        have same : (i.natAbs : Int) = i := by omega
        rw [front, Scanner.wordValue?_of_number (.inl digit), ← front, plain, Option.map_some, same]
      rw [text]
      exact denotes_word word value

/-! ## Containers -/

theorem stops_cons {c : Char} (h : Scanner.isWordChar c = false) (rest : List Char) :
    Stops (c :: rest) := by
  rintro d ⟨⟩
  exact h

/-- A line break stops a word, or else what comes behind it does. -/
theorem stops_lineBreak (indent : Indent) (level : Nat) {rest : List Char} (h : Stops rest) :
    Stops (lineBreak indent level ++ rest) := by
  cases indent with
  | none => exact h
  | some width => exact stops_cons (by decide) _

/-- How the entries of a container are read: a reader that awaits an entry takes it, and after a
comma it awaits the next one. -/
structure ReadsEntries {σ α : Type} (Entry : List Char → α → Prop) (Awaits : σ → Reader → Prop)
    (after : σ → Reader) (add : σ → α → σ) : Prop where
  takes : ∀ {text a state reader}, Entry text a → Awaits state reader → ∀ {rest}, Stops rest →
    readFrom reader (text ++ rest) = readFrom (after (add state a)) rest
  goesOn : ∀ state, ∃ reader, (after state).step .comma = some reader ∧ Awaits state reader

namespace ReadsEntries

variable {σ α : Type} {Entry : List Char → α → Prop} {Awaits : σ → Reader → Prop}
  {after : σ → Reader} {add : σ → α → σ} {closing : Char} {texts : List (List Char)}
  {as : List α} {state : σ}

/-- Entries with commas between them are read up to the mark that closes the container. -/
theorem readFrom_intercalate (reads : ReadsEntries Entry Awaits after add)
    (closes : Scanner.isWordChar closing = false) {text : List Char} {a : α} (first : Entry text a)
    (others : List.Forall₂ Entry texts as) {reader : Reader} (awaits : Awaits state reader)
    (indent : Indent) (level : Nat) (rest : List Char) :
    readFrom reader ((',' :: lineBreak indent (level + 1)).intercalate (text :: texts) ++
        (lineBreak indent level ++ closing :: rest)) =
      readFrom (after ((a :: as).foldl add state)) (closing :: rest) := by
  -- By induction on the entries behind the first one, which a reader awaits in every case.
  induction others generalizing text a state reader with
  | nil =>
    have stops : Stops (lineBreak indent level ++ closing :: rest) :=
      stops_lineBreak indent level (stops_cons closes rest)
    rw [List.intercalate_singleton, reads.takes first awaits stops, readFrom_lineBreak]
    rfl
  | cons second _ ih =>
    obtain ⟨next, comma, waiting⟩ := reads.goesOn (add state a)
    rw [List.intercalate_cons_cons, List.append_assoc, List.append_assoc, List.cons_append,
      reads.takes first awaits (stops_cons (by decide) _), readFrom_mark rfl, comma,
      Option.bind_some, readFrom_lineBreak, ih second waiting]
    rfl

/-- A container is read up to the mark that closes it. -/
theorem readFrom_enclose (reads : ReadsEntries Entry Awaits after add)
    (closes : Scanner.isWordChar closing = false) {opening : Char} {token : Token}
    (mark : Scanner.between.step opening = some ([token], .between)) {reader begun : Reader}
    (opened : reader.step token = some begun) (awaits : Awaits state begun)
    (h : List.Forall₂ Entry texts as) (indent : Indent) (level : Nat) (rest : List Char) :
    readFrom reader (enclose indent level opening closing texts ++ rest) =
      readFrom (if as.isEmpty then begun else after (as.foldl add state)) (closing :: rest) := by
  have opens : ∀ cs, readFrom reader (opening :: cs) = readFrom begun cs := fun cs => by
    rw [readFrom_mark mark, opened, Option.bind_some]
  cases h with
  | nil => exact opens (closing :: rest)
  | cons first others =>
    rw [enclose, if_neg nofun, if_neg nofun,
      ← reads.readFrom_intercalate closes first others awaits indent level rest]
    simp only [List.cons_append, List.append_assoc, List.nil_append]
    rw [opens, readFrom_lineBreak]

end ReadsEntries

section

variable {indent : Indent} {level : Nat} {texts : List (List Char)}

theorem readsItems (outer : List Frame) :
    ReadsEntries Denotes (fun reversed => Reader.Awaits (.array reversed :: outer))
      (fun reversed => .afterItem reversed outer) (fun reversed v => v :: reversed) where
  takes denotes awaits _ stops := denotes awaits stops
  goesOn _ := ⟨_, rfl, rfl⟩

/-- The text of an array denotes it. -/
theorem denotes_array {values : List Value} (h : List.Forall₂ Denotes texts values) :
    Denotes (enclose indent level '[' ']' texts) (.array values) := by
  intro reader frames awaits rest _
  have opened : reader.step .openBracket = some (.firstItem frames) := awaits.step nofun
  have closes : Scanner.isWordChar ']' = false := by decide
  have waiting : Reader.Awaits (.array [] :: frames) (.firstItem frames) := rfl
  rw [(readsItems frames).readFrom_enclose closes rfl opened waiting h, readFrom_mark rfl]
  cases values with
  | nil => rfl
  | cons v values => simp [Reader.step]

/-! ## Members -/

/-- The reader takes the next string for the key of a member of the innermost container. -/
def Reader.AwaitsKey (outer : List Frame) (members : Members) : Reader → Prop
  | .firstKey around => members = [] ∧ around = outer
  | .nextKey before around => before = members ∧ around = outer
  | _ => False

theorem Reader.AwaitsKey.step {outer : List Frame} {members : Members} {reader : Reader}
    (h : reader.AwaitsKey outer members) (key : String) :
    reader.step (.literal (.string key)) = some (.afterKey members key outer) := by
  cases reader with
  | firstKey | nextKey =>
    obtain ⟨rfl, rfl⟩ := h
    rfl
  | _ => cases h

/-- The text is that of a member whose value it denotes. -/
def DenotesMember (indent : Indent) (text : List Char) (member : String × Value) : Prop :=
  ∃ cs, text = quote member.1 ++ (colon indent ++ cs) ∧ Denotes cs member.2

theorem readsMembers (indent : Indent) (outer : List Frame) :
    ReadsEntries (DenotesMember indent) (Reader.AwaitsKey outer)
      (fun members => .afterMember members outer)
      (fun members member => members.insert member.1 member.2) where
  takes := by
    rintro text ⟨key, v⟩ members reader ⟨cs, rfl, denotes⟩ awaits rest stops
    have waiting : Reader.Awaits (.object members key :: outer)
        (.value (.object members key :: outer)) := rfl
    rw [List.append_assoc, List.append_assoc, readFrom_quote, awaits.step, Option.bind_some,
      readFrom_colon]
    exact denotes waiting stops
  goesOn _ := ⟨_, rfl, rfl, rfl⟩

/-- The text of an object denotes what results from setting its members one after another. -/
theorem denotes_object {members : Members}
    (h : List.Forall₂ (DenotesMember indent) texts members) :
    Denotes (enclose indent level '\x7b' '\x7d' texts) (.object (Members.ofEntries members)) := by
  intro reader frames awaits rest _
  have opened : reader.step .openBrace = some (.firstKey frames) := awaits.step nofun
  have closes : Scanner.isWordChar '\x7d' = false := by decide
  have waiting : Reader.AwaitsKey frames [] (.firstKey frames) := ⟨rfl, rfl⟩
  rw [(readsMembers indent frames).readFrom_enclose closes rfl opened waiting h,
    readFrom_mark rfl]
  cases members with
  | nil => rfl
  | cons member members => rfl

end

/-! ## All values -/

-- The cases follow the writer, which goes through values, items and members.
mutual

/-- What is written of a value denotes its normal form. -/
theorem denotes_chars (indent : Indent) :
    ∀ (v : Value) (level : Nat), v.IsExact → Denotes (chars indent level v) v.normal
  | .undefined, _, _ => denotes_null
  | .null, _, _ => denotes_null
  | .bool b, _, _ => denotes_bool b
  | .number _, _, exact => denotes_number exact
  | .string s, _, _ => denotes_quote s
  | .array items, level, exact => denotes_array (denotes_items indent items (level + 1) exact)
  | .object members, level, exact =>
    denotes_object (denotes_members indent members (level + 1) exact)

theorem denotes_items (indent : Indent) :
    ∀ (items : List Value) (level : Nat), Value.AreExact items →
      List.Forall₂ Denotes (itemChars indent level items) (Value.normalItems items)
  | [], _, _ => .nil
  | item :: rest, level, ⟨exact, others⟩ =>
    .cons (denotes_chars indent item level exact) (denotes_items indent rest level others)

theorem denotes_members (indent : Indent) :
    ∀ (members : Members) (level : Nat), Value.HasExact members →
      List.Forall₂ (DenotesMember indent) (memberChars indent level members)
        (Value.normalMembers members)
  | [], _, _ => .nil
  | (key, v) :: rest, level, ⟨exact, others⟩ => by
    have tail := denotes_members indent rest level others
    by_cases missing : v = .undefined
    · subst missing
      simpa only [memberChars, Value.normalMembers] using tail
    · rw [memberChars, Value.normalMembers]
      · refine .cons ⟨_, List.append_assoc .., ?_⟩ tail
        exact denotes_chars indent v level exact
      · exact missing
      · exact missing

end

/-- What is written of a value is read back as its normal form. -/
theorem read?_pretty {v : Value} (exact : v.IsExact) (present : v ≠ .undefined) :
    read? ((pretty v).toList ++ ['\n']) = some v.normal := by
  have text : (pretty v).toList = chars (some 2) 0 v := by
    unfold pretty write
    split
    · exact absurd rfl present
    · exact String.toList_ofList
  have ending : readFrom (.finished v.normal) ['\n'] = some (.finished v.normal) := rfl
  have start : Reader.Awaits [] (.value []) := rfl
  have stops : Stops ['\n'] := stops_cons (by decide) []
  rw [text, read?_eq, denotes_chars (some 2) v 0 exact start stops, Reader.deliver, ending]
  rfl

end Json

end KeyClient
