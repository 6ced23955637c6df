import KeyClient.Proofs.Number.Numeral
import KeyClient.Proofs.Text.Units
import KeyClient.Json.Writer
import KeyClient.Json.Token

/-!
# Tokens are read back

`Scanner.run` is what the scanner makes of a text from where it stands, so that a text can be taken
apart from the left.  A string is read back from its quotes (`run_quote`), a word is read up to the
character that ends it (`run_whole_word`), and digits are the number that they write
(`number?_toDigits`).
-/

namespace KeyClient.Json

namespace Scanner

/-- The tokens of a text that is read from where the scanner stands. -/
def run (scanner : Scanner) : List Char → Option (List Token)
  | [] => scanner.finish
  | c :: cs => (scanner.step c).bind fun (tokens, next) => (next.run cs).map (tokens ++ ·)

theorem foldlM_advance (cs : List Char) (completed : List Token) (scanner : Scanner) :
    ((cs.foldlM Token.advance (completed, scanner)).bind fun state =>
      state.2.finish.map (state.1.reverse ++ ·)) =
      (scanner.run cs).map (completed.reverse ++ ·) := by
  -- What is completed so far is put in front of what the rest of the text completes.
  induction cs generalizing completed scanner with
  | nil => rfl
  | cons c cs ih =>
    rw [List.foldlM_cons, run]
    cases h : scanner.step c with
    | none => simp [Token.advance, h]
    | some result =>
      have rest := ih (result.1.reverse ++ completed) result.2
      simp only [List.reverse_append, List.reverse_reverse, List.append_assoc] at rest
      simp [Token.advance, h, rest, Function.comp_def]

theorem scan?_eq_run (cs : List Char) : Token.scan? cs = between.run cs := by
  have folded := foldlM_advance cs [] between
  simp only [List.reverse_nil, List.nil_append, Option.map_id'] at folded
  rw [← folded, Token.scan?]
  cases cs.foldlM Token.advance ([], between) with
  | none => rfl
  | some state => exact Option.map_eq_bind.symm

theorem run_of_step {scanner next : Scanner} {c : Char} {tokens : List Token}
    (h : scanner.step c = some (tokens, next)) (cs : List Char) :
    scanner.run (c :: cs) = (next.run cs).map (tokens ++ ·) := by
  simp [run, h]

/-- A character that completes no token. -/
theorem run_of_step_nil {scanner next : Scanner} {c : Char}
    (h : scanner.step c = some ([], next)) (cs : List Char) :
    scanner.run (c :: cs) = next.run cs := by
  simp [run_of_step h]

/-! ## Strings -/

theorem digitValue?_digitChar : ∀ n < 16, Number.digitValue? n.digitChar = some n := by decide

/-- Four digits are read as the unit that they write. -/
theorem run_hexUnit {n : Nat} (h : n < 0x10000) (collected : List Nat) (cs : List Char) :
    (unit collected []).run (hexUnit n ++ cs) = (quoted (n :: collected)).run cs := by
  have whole : ((n / 0x1000 % 16 * 16 + n / 0x100 % 16) * 16 + n / 0x10 % 16) * 16 + n % 16 =
      n := by omega
  have digit : ∀ k, Number.digitValue? (k % 16).digitChar = some (k % 16) :=
    fun k => digitValue?_digitChar _ (by omega)
  have first : ∀ k, (unit collected []).step (k % 16).digitChar =
      some ([], unit collected [k % 16]) := by
    intro k
    rw [step, digit]
    rfl
  have second : ∀ a k, (unit collected [a]).step (k % 16).digitChar =
      some ([], unit collected [a, k % 16]) := by
    intro a k
    rw [step, digit]
    rfl
  have third : ∀ a b k, (unit collected [a, b]).step (k % 16).digitChar =
      some ([], unit collected [a, b, k % 16]) := by
    intro a b k
    rw [step, digit]
    rfl
  have last : ∀ a b d k, (unit collected [a, b, d]).step (k % 16).digitChar =
      some ([], quoted ((((a * 16 + b) * 16 + d) * 16 + k % 16) :: collected)) := by
    intro a b d k
    rw [step, digit]
    rfl
  simp only [hexUnit, List.map_cons, List.map_nil, List.cons_append, List.nil_append]
  rw [run_of_step_nil (first _), run_of_step_nil (second _ _), run_of_step_nil (third _ _ _),
    run_of_step_nil (last _ _ _ _), whole]

/-- A letter behind a backslash is read as the character that it stands for. -/
theorem run_escaped {c d : Char} (h : escapedChar? d = some c) (collected : List Nat)
    (cs : List Char) :
    (quoted collected).run ('\\' :: d :: cs) = (quoted (c.toNat :: collected)).run cs := by
  have slash : (quoted collected).step '\\' = some ([], escaped collected) := rfl
  have noUnit : d ≠ 'u' := by
    rintro rfl
    cases h
  have letter : (escaped collected).step d = some ([], quoted (c.toNat :: collected)) := by
    simp [step, noUnit, h]
  rw [run_of_step_nil slash, run_of_step_nil letter]

/-- An escaped character is read as its units. -/
theorem run_escapeChar (c : Char) (collected : List Nat) (cs : List Char) :
    (quoted collected).run (escapeChar c ++ cs) =
      (quoted ((Text.charUnits c).reverse ++ collected)).run cs := by
  unfold escapeChar
  split
  iterate 7 · exact run_escaped rfl collected cs
  · split
    · next control =>
      have units : Text.charUnits c = [c.toNat] := by rw [Text.charUnits, if_pos (by omega)]
      have opened : (escaped collected).step 'u' = some ([], unit collected []) := rfl
      have slash : (quoted collected).step '\\' = some ([], escaped collected) := rfl
      rw [List.cons_append, List.cons_append, run_of_step_nil slash, run_of_step_nil opened,
        run_hexUnit (by omega), units]
      rfl
    · next noQuote noSlash _ _ _ _ _ plain =>
      have kept : (quoted collected).step c =
          some ([], quoted ((Text.charUnits c).reverse ++ collected)) := by
        rw [step, if_neg noQuote, if_neg noSlash, if_neg plain]
      exact run_of_step_nil kept cs

theorem run_flatMap_escapeChar (s : List Char) (collected : List Nat) (cs : List Char) :
    (quoted collected).run (s.flatMap escapeChar ++ '\"' :: cs) =
      (between.run cs).map (.literal (.string (String.ofList
        (Text.ofUnits (collected.reverse ++ Text.units s)))) :: ·) := by
  induction s generalizing collected with
  | nil =>
    have closed : (quoted collected).step '\"' =
      some ([.literal (.string (String.ofList (Text.ofUnits collected.reverse)))], between) := rfl
    rw [List.flatMap_nil, List.nil_append, run_of_step closed, Text.units, List.flatMap_nil,
      List.append_nil]
    rfl
  | cons c s ih =>
    rw [List.flatMap_cons, List.append_assoc, run_escapeChar, ih]
    simp [Text.units]

/-- A string is read back. -/
theorem run_quote (s : String) (cs : List Char) :
    between.run (quote s ++ cs) = (between.run cs).map (.literal (.string s) :: ·) := by
  have opened : between.step '\"' = some ([], quoted []) := rfl
  rw [quote, List.cons_append, List.append_assoc, run_of_step_nil opened, List.singleton_append,
    run_flatMap_escapeChar, List.reverse_nil, List.nil_append, Text.ofUnits_units,
    String.ofList_toList]

/-! ## Words -/

theorem isWordChar_of_isDigit {c : Char} (h : c.isDigit = true) : isWordChar c = true := by
  simp [isWordChar, Char.isAlphanum, h]

/-- A character of a word starts a word. -/
theorem start_of_isWordChar {c : Char} (h : isWordChar c = true) :
    start c = some ([], word [c]) := by
  unfold start
  split
  all_goals first | cases h | exact if_pos h

theorem step_word_of_stop {collected : List Char} {v : Value}
    (value : wordValue? collected.reverse = some v) {c : Char} (stop : isWordChar c = false) :
    (word collected).step c =
      (between.step c).map fun (tokens, next) => (.literal v :: tokens, next) := by
  simp only [step, stop, value]
  cases start c <;> rfl

/-- A word is read to its end, which the text behind it or the end of the text marks. -/
theorem run_word {w : List Char} (all : ∀ c ∈ w, isWordChar c = true) (collected : List Char)
    {rest : List Char} (stops : ∀ c ∈ rest.head?, isWordChar c = false) {v : Value}
    (value : wordValue? (collected.reverse ++ w) = some v) :
    (word collected).run (w ++ rest) = (between.run rest).map (.literal v :: ·) := by
  induction w generalizing collected with
  | nil =>
    rw [List.append_nil] at value
    cases rest with
    | nil => simp [run, finish, value]
    | cons c rest =>
      have stop : isWordChar c = false := stops c rfl
      rw [List.nil_append, run, run, step_word_of_stop value stop]
      cases between.step c with
      | none => rfl
      | some next => simp [Function.comp_def]
  | cons c w ih =>
    have here : (word collected).step c = some ([], word (c :: collected)) := by
      rw [step, if_pos (all c List.mem_cons_self)]
    rw [List.cons_append, run_of_step_nil here]
    exact ih (fun d mem => all d (List.mem_cons_of_mem _ mem)) (c :: collected)
      (by simpa using value)

/-- A whole word is read as its value. -/
theorem run_whole_word {w : List Char} (all : ∀ c ∈ w, isWordChar c = true) {v : Value}
    (value : wordValue? w = some v)
    {rest : List Char} (stops : ∀ c ∈ rest.head?, isWordChar c = false) :
    between.run (w ++ rest) = (between.run rest).map (.literal v :: ·) := by
  cases w with
  | nil => cases value
  | cons c w =>
    have first : between.step c = some ([], word [c]) :=
      start_of_isWordChar (all c List.mem_cons_self)
    rw [List.cons_append, run_of_step_nil first]
    exact run_word (fun d mem => all d (List.mem_cons_of_mem _ mem)) [c] stops value

/-! ## Numbers -/

theorem isWhole_toDigits (n : Nat) : isWhole (Nat.toDigits 10 n) = true := by
  by_cases zero : n = 0
  · subst zero
    decide
  · have front := head?_toDigits_ne (Nat.pos_of_ne_zero zero)
    unfold isWhole
    split
    · next none => exact absurd none Nat.toDigits_ne_nil
    · rfl
    · next rest _ digits => simp [digits] at front
    · rfl

theorem head_toDigits (n : Nat) : ∃ c cs, Nat.toDigits 10 n = c :: cs ∧ c.isDigit = true := by
  obtain ⟨c, cs, digits⟩ := List.exists_cons_of_ne_nil (Nat.toDigits_ne_nil (n := n) (b := 10))
  exact ⟨c, cs, digits, isDigit_of_mem_toDigits (digits ▸ List.mem_cons_self)⟩

/-- The number that digits spell, with a sign before them or none. -/
theorem number?_toDigits {n : Nat} (small : n < Number.exactBound) :
    number? (Nat.toDigits 10 n) = some (.integer n) ∧
      number? ('-' :: Nat.toDigits 10 n) =
        some (if n = 0 then .negativeZero else .integer (-n)) := by
  have tail : isTail [] = true := rfl
  constructor
  · obtain ⟨c, cs, digits, digit⟩ := head_toDigits n
    have unsigned : ∀ rest, Nat.toDigits 10 n ≠ '-' :: rest := by
      rw [digits]
      rintro rest ⟨⟩
      cases digit
    have noSign : number? (Nat.toDigits 10 n) = some ((Decimal.mk n 0).toNumber false) := by
      rw [number?]
      · simp [takeWhile_toDigits, dropWhile_toDigits, isWhole_toDigits, tail,
          Decimal.scan?_toDigits]
      · exact unsigned
    rw [noSign, Decimal.toNumber_of_lt small]
    split
    · next zero => subst zero; rfl
    · simp
  · have signed : number? ('-' :: Nat.toDigits 10 n) = some ((Decimal.mk n 0).toNumber true) := by
      rw [number?]
      simp [takeWhile_toDigits, dropWhile_toDigits, isWhole_toDigits, tail, Decimal.scan?_toDigits]
    rw [signed, Decimal.toNumber_of_lt small]
    simp [Number.signedZero]

/-! ## Words -/

theorem wordValue?_null : wordValue? "null".toList = some .null := if_pos rfl

theorem wordValue?_bool (b : Bool) : wordValue? (toString b).toList = some (.bool b) := by
  cases b with
  | true => rw [wordValue?, if_neg (by decide), if_pos (by decide)]
  | false => rw [wordValue?, if_neg (by decide), if_neg (by decide), if_pos (by decide)]

/-- A word that starts with a digit or a sign spells no name. -/
theorem wordValue?_of_number {c : Char} (h : c.isDigit = true ∨ c = '-') (cs : List Char) :
    wordValue? (c :: cs) = (number? (c :: cs)).map .number := by
  have differs : ∀ name ∈ ["null", "true", "false"], c :: cs ≠ name.toList := by
    simp only [List.forall_mem_cons]
    refine ⟨?_, ?_, ?_, List.forall_mem_nil _⟩
    all_goals
      rintro ⟨⟩
      rcases h with digit | sign
      · cases digit
      · cases sign
  simp only [List.forall_mem_cons] at differs
  obtain ⟨null, true, false, -⟩ := differs
  rw [wordValue?, if_neg null, if_neg true, if_neg false]

end Scanner

end KeyClient.Json
