import KeyClient.Proofs.Config.Resolved
import KeyClient.Proofs.Dispatch.Course
import KeyClient.Proofs.Number.Numeral
import KeyClient.Proofs.Program.Agreement

/-!
# Options of the root in any place

A command line for keys may have options of the root in front of the name of the command and among
the options behind it.  With their values behind equals signs, the root picks out its own words
wherever they stand (`route_arguments`) and the command gets the others in their order
(`keysAlone_keyWords`); of each option the last word counts (`effects_arguments`).
-/

namespace KeyClient

open KeyClient.CommandLine KeyClient.CommandLine.Scan

namespace Config

/-- A configuration with an address and a time limit, if they are given, in place of its own. -/
def overlaid (base : Config) (url? : Option { text : String // isAddress text = true })
    (limit? : Option { n : Nat // isTimeout n = true }) : Config :=
  let url := url?.getD ⟨base.client.baseUrl, base.client.isAddress⟩
  let limit := limit?.getD ⟨base.client.timeoutMs, base.client.isTimeout⟩
  ⟨⟨url.1, limit.1, url.2, limit.2⟩, base.logLevel⟩

/-- An address and a time limit as overrides. -/
def Overrides.ofValid (url? : Option { text : String // isAddress text = true })
    (limit? : Option { n : Nat // isTimeout n = true }) : Overrides where
  baseUrl := (url?.map fun url => .string url.1).getD .undefined
  timeoutMs := (limit?.map fun limit => .ofNat limit.1).getD .undefined

/-- Valid overrides are laid over what the file or the defaults say. -/
theorem resolve_ofValid {project : Project} {files : Files.Tree} {base : Config}
    (holds : Holds project files (.ok base))
    (url? : Option { text : String // isAddress text = true })
    (limit? : Option { n : Nat // isTimeout n = true }) :
    resolve project files (.ofValid url? limit?) = .ok (base.overlaid url? limit?) := by
  refine Resolution.resolve_eq (.laid holds ?_ ?_ ?_)
  · rintro ⟨given, wrong⟩
    cases url? with
    | none => cases given
    | some url => exact wrong ⟨url.1, rfl, url.2⟩
  · rintro ⟨given, wrong⟩
    cases limit? with
    | none => cases given
    | some limit => exact wrong ⟨limit.1, rfl, isTimeout_iff.1 limit.2⟩
  · cases url? <;> cases limit? <;> rfl

end Config

namespace Program

/-! ## Words -/

/-- A number in decimal digits, with some zeros in front. -/
def digits (zeros n : Nat) : String :=
  String.ofList (List.replicate zeros '0' ++ Nat.toDigits 10 n)

/-- A word for an option of the root: an address, a time limit in decimal digits, perhaps with
zeros in front, or the switch that has everything logged. -/
inductive RootWord where
  | baseUrl (url : { text : String // Config.isAddress text = true })
  | timeout (zeros : Nat) (limit : { n : Nat // Config.isTimeout n = true })
  | verbose

namespace RootWord

/-- The word on the command line. -/
def text : RootWord → String
  | baseUrl url => "--base-url=" ++ url.1
  | timeout zeros limit => "--timeout=" ++ digits zeros limit.1
  | verbose => "--verbose"

/-- What the word sets. -/
def setting : RootWord → String × Value
  | baseUrl url => (baseUrlOption.slot, .string url.1)
  | timeout _ limit => (timeoutOption.slot, .ofNat limit.1)
  | verbose => (verboseOption.slot, .bool true)

/-- The address of the word. -/
def baseUrl? : RootWord → Option { text : String // Config.isAddress text = true }
  | baseUrl url => some url
  | _ => none

/-- The time limit of the word. -/
def timeout? : RootWord → Option { n : Nat // Config.isTimeout n = true }
  | timeout _ limit => some limit
  | _ => none

/-- Whether the word has everything logged. -/
def isVerbose : RootWord → Bool
  | verbose => true
  | _ => false

/-- A configuration with the last address and the last time limit of some words in place of its
own. -/
def laid (base : Config) (words : List RootWord) : Config :=
  base.overlaid (words.filterMap baseUrl?).getLast? (words.filterMap timeout?).getLast?

/-- The threshold of a configuration under some words. -/
def threshold (base : Config) (words : List RootWord) : Threshold :=
  .ofLevel (if words.any isVerbose then .debug else base.logLevel)

end RootWord

/-- A word for an option of the command for keys. -/
inductive KeyWord where
  | key (value : Bool)
  | uniqueKey (value : String)

namespace KeyWord

/-- The word on the command line. -/
def text : KeyWord → String
  | key value => "--key=" ++ toString value
  | uniqueKey value => "--unique-key=" ++ value

/-- What the word sets. -/
def setting : KeyWord → String × Value
  | key value => ((flagOption Operation.keyFlag).slot, .bool value)
  | uniqueKey value => ((flagOption Operation.uniqueKeyFlag).slot, .string value)

/-- The key of the word. -/
def key? : KeyWord → Option Bool
  | key value => some value
  | uniqueKey _ => none

/-- The unique key of the word. -/
def uniqueKey? : KeyWord → Option String
  | key _ => none
  | uniqueKey value => some value

/-- The request with the last value of some words for each field; a field without one is not set. -/
def request (words : List KeyWord) : KeyRequest :=
  ⟨(words.filterMap key?).getLast?, (words.filterMap uniqueKey?).getLast?⟩

end KeyWord

/-- The matches with the fields of a request that are set. -/
def matchesFor (request : KeyRequest) : Matches :=
  ⟨(request.key.map fun b => ("key", .value (.bool b))).toList ++
    (request.uniqueKey.map fun s => ("unique-key", .value (.string s))).toList⟩

theorem ofFlags_matchesFor (request : KeyRequest) :
    Dispatch.ofFlags (matchesFor request) = .ok request := by
  obtain ⟨key, uniqueKey⟩ := request
  cases key <;> cases uniqueKey <;> rfl

/-- The arguments with some words in front of the name of the command and some behind it. -/
def arguments (before : List RootWord) (behind : List (RootWord ⊕ KeyWord)) : List String :=
  before.map RootWord.text ++
    Operation.keyGet.name :: behind.map (Sum.elim RootWord.text KeyWord.text)

/-- Words that each set a value, in front of anything else, set these values one after another. -/
theorem run_settings {α : Type} {context : Context} {text : α → String}
    {setting : α → String × Value}
    (takes : ∀ (word : α) {scan : Scan}, scan.repeated = none → ∀ rest,
      Scan.step context scan (text word) rest =
        .next { scan with values := scan.values.set (setting word).1 (setting word).2 none })
    (words : List α) {scan : Scan} (single : scan.repeated = none) (rest : List String) :
    Scan.run context scan (words.map text ++ rest) =
      Scan.run context { scan with values := scan.values.setAll (words.map setting) } rest := by
  induction words generalizing scan with
  | nil => rfl
  | cons word words ih =>
    let next : Scan :=
      { scan with values := scan.values.set (setting word).1 (setting word).2 none }
    have last := @ih next single
    rw [List.map_cons, List.cons_append, run_of_next (takes word single _), last]
    rfl

/-! ## The root -/

/-- No option is spelled with an equals sign. -/
theorem find?_root_of_equals {word : String} (equals : '=' ∈ word.toList) :
    standardSuite.context.find? word = none := by
  cases found : standardSuite.context.find? word with
  | none => rfl
  | some spec =>
    have clear : ∀ word ∈ ["--base-url", "--timeout", "-V", "--version", "-v", "--verbose"],
        '=' ∉ word.toList := by decide
    rcases spelling_root found with ⟨-, mem⟩ | ⟨-, mem⟩
    · exact absurd equals
        (clear word (List.mem_append_left ["-V", "--version", "-v", "--verbose"] mem))
    · exact absurd equals (clear word (List.mem_append_right ["--base-url", "--timeout"] mem))

theorem ofDigitChars_zeros (zeros n : Nat) :
    Nat.ofDigitChars 10 (List.replicate zeros '0' ++ Nat.toDigits 10 n) 0 = n := by
  induction zeros with
  | zero => exact Nat.ofDigitChars_ten_toDigits
  | succ zeros ih => exact ih

/-- The digits of a time limit are read as the limit. -/
theorem ofText_digits (zeros : Nat) {n : Nat} (small : n < Number.exactBound) :
    Number.ofText (digits zeros n) = .integer n := by
  have some : List.replicate zeros '0' ++ Nat.toDigits 10 n ≠ [] :=
    List.append_ne_nil_of_right_ne_nil _ Nat.toDigits_ne_nil
  have all : ∀ c ∈ List.replicate zeros '0' ++ Nat.toDigits 10 n, c.isDigit = true := by
    intro c mem
    rcases List.mem_append.1 mem with zero | digit
    · rw [List.eq_of_mem_replicate zero]
      rfl
    · exact isDigit_of_mem_toDigits digit
  have value := ofDigitChars_zeros zeros n
  have read := Number.ofText_of_forall_isDigit some all (by rwa [value])
  rwa [value] at read

theorem parseTimeout_digits (zeros : Nat) {n : Nat} (limit : Config.isTimeout n = true) :
    parseTimeout (.string (digits zeros n)) = .ok (.integer n) := by
  obtain ⟨low, high⟩ := Config.isTimeout_iff.1 limit
  have bound : 600000 < Number.exactBound := by decide
  have text : (Value.string (digits zeros n)).toNumber = Number.ofText (digits zeros n) := rfl
  have read := ofText_digits zeros (Nat.lt_of_le_of_lt high bound)
  have positive : (Number.integer 1).le (.integer n) = true := by
    rw [Number.integer_le_integer]
    exact decide_eq_true (by omega)
  rw [parseTimeout, text, read]
  exact if_pos positive

theorem receive_timeout {text : String} {n : Number} (reads : parseTimeout (.string text) = .ok n)
    (old : Kept) : timeoutOption.receive old (.text text) = .ok (.number n) := by
  have converted : timeoutOption.convert old (.string text) =
      (parseTimeout (.string text)).map .number := rfl
  rw [OptionSpec.receive_text rfl, converted, reads]
  rfl

section

variable {scan : Scan}

/-- The root takes any text as an address. -/
theorem step_baseUrl (url : String) (single : scan.repeated = none) (rest : List String) :
    Scan.step standardSuite.context scan ("--base-url=" ++ url) rest =
      .next { scan with values := scan.values.set baseUrlOption.slot (.string url) none } := by
  have chars : ("--base-url=" ++ url).toList =
      '-' :: '-' :: 'b' :: ("ase-url".toList ++ '=' :: url.toList) := String.toList_append
  have found : standardSuite.context.find?
      (String.ofList ('-' :: '-' :: 'b' :: "ase-url".toList)) = some baseUrlOption := rfl
  have unfound : standardSuite.context.find? ("--base-url=" ++ url) = none :=
    find?_root_of_equals (by simp [chars])
  have taken := step_of_assignment chars (by decide) found rfl unfound single rest
  rw [String.ofList_toList] at taken
  exact taken

/-- The root takes any text that is read as a positive whole number as a time limit. -/
theorem step_timeout {text : String} {n : Number} (reads : parseTimeout (.string text) = .ok n)
    (single : scan.repeated = none) (rest : List String) :
    Scan.step standardSuite.context scan ("--timeout=" ++ text) rest =
      .next { scan with values := scan.values.set timeoutOption.slot (.number n) none } := by
  have chars : ("--timeout=" ++ text).toList =
      '-' :: '-' :: 't' :: ("imeout".toList ++ '=' :: text.toList) := String.toList_append
  have found : standardSuite.context.find?
      (String.ofList ('-' :: '-' :: 't' :: "imeout".toList)) = some timeoutOption := rfl
  have unfound : standardSuite.context.find? ("--timeout=" ++ text) = none :=
    find?_root_of_equals (by simp [chars])
  have occurs : ∀ given, standardSuite.context.occur timeoutOption given scan =
      storeAll given scan [timeoutOption] := fun given => rfl
  have taken := step_of_assignment chars (by decide) found rfl unfound single rest
  rw [String.ofList_toList, occurs, storeAll, Scan.store, receive_timeout reads] at taken
  exact taken

/-- The root takes its words. -/
theorem step_rootWord (word : RootWord) (single : scan.repeated = none) (rest : List String) :
    Scan.step standardSuite.context scan word.text rest =
      .next { scan with values := scan.values.set word.setting.1 word.setting.2 none } := by
  cases word with
  | baseUrl url => exact step_baseUrl url.1 single rest
  | timeout zeros limit => exact step_timeout (parseTimeout_digits zeros limit.2) single rest
  | verbose =>
    have same : { scan with repeated := none } = scan := by rw [← single]
    rw [← same]
    rfl

end

/-- Words of the root in front of a command line set their values and nothing else. -/
theorem route_settings {α : Type} {text : α → String} {setting : α → String × Value}
    (takes : ∀ (word : α) {scan : Scan}, scan.repeated = none → ∀ rest,
      Scan.step standardSuite.context scan (text word) rest =
        .next { scan with values := scan.values.set (setting word).1 (setting word).2 none })
    (words : List α) (values : OptionValues) (rest : List String) :
    standardSuite.route values (words.map text ++ rest) =
      standardSuite.route (values.setAll (words.map setting)) rest := by
  have started := @run_settings _ standardSuite.context _ _ takes words (.start values) rfl rest
  unfold Suite.route
  rw [← Suite.context, started]
  rfl

/-- The root keeps the values of its options where no value is inherited. -/
theorem grounded_root :
    ∀ spec ∈ [baseUrlOption, timeoutOption, verboseOption], spec.slot ≠ Ground.name :=
  isProper_standardSuite.root

theorem grounded_rootWord (word : RootWord) : word.setting.1 ≠ Ground.name := by
  cases word with
  | baseUrl url => exact grounded_root baseUrlOption (by simp)
  | timeout zeros limit => exact grounded_root timeoutOption (by simp)
  | verbose => exact grounded_root verboseOption (by simp)

/-- The long options of the root start with three letters. -/
theorem not_isRootWord_of_toList {word : String} {c : Char} {rest : List Char}
    (chars : word.toList = '-' :: '-' :: c :: rest) (other : c ∉ ['b', 't', 'v']) :
    word ≠ "--" ∧ isRootWord word = false := by
  have apart : ∀ spelling : String, (spelling.toList.drop 2).head? ≠ some c → word ≠ spelling := by
    rintro spelling differs rfl
    rw [chars] at differs
    exact differs rfl
  simp only [List.mem_cons, List.not_mem_nil, or_false, not_or] at other
  obtain ⟨notB, notT, notV⟩ := other
  have listed : ["--base-url", "--timeout", "--verbose", "--version"].contains word = false := by
    simp [apart "--base-url" (by simpa using Ne.symm notB),
      apart "--timeout" (by simpa using Ne.symm notT),
      apart "--verbose" (by simpa using Ne.symm notV),
      apart "--version" (by simpa using Ne.symm notV)]
  have opens : ["-v", "-V", "--base-url=", "--timeout="].any
      (·.toList.isPrefixOf word.toList) = false := by
    simp [chars, List.isPrefixOf, Ne.symm notB, Ne.symm notT]
  exact ⟨apart "--" (by simp), by rw [isRootWord, listed, opens, Bool.or_false]⟩

theorem toList_key (text : String) :
    ("--key=" ++ text).toList = '-' :: '-' :: 'k' :: ("ey".toList ++ '=' :: text.toList) :=
  String.toList_append

theorem toList_uniqueKey (text : String) :
    ("--unique-key=" ++ text).toList =
      '-' :: '-' :: 'u' :: ("nique-key".toList ++ '=' :: text.toList) :=
  String.toList_append

/-- The root leaves the words of the command. -/
theorem foreign_keyWord (word : KeyWord) :
    isOptionLike word.text = true ∧ word.text ≠ "--" ∧ isRootWord word.text = false := by
  cases word with
  | key value =>
    have chars := toList_key (toString value)
    exact ⟨isOptionLike_of_toList chars, not_isRootWord_of_toList chars (by decide)⟩
  | uniqueKey value =>
    have chars := toList_uniqueKey value
    exact ⟨isOptionLike_of_toList chars, not_isRootWord_of_toList chars (by decide)⟩

/-- Behind the name of the command the root picks out its own words. -/
theorem run_behind (behind : List (RootWord ⊕ KeyWord)) {scan : Scan}
    (single : scan.repeated = none) :
    ∃ beyond, Scan.run standardSuite.context scan
        (behind.map (Sum.elim RootWord.text KeyWord.text)) =
      ({ scan with
          values := scan.values.setAll ((behind.filterMap Sum.getLeft?).map RootWord.setting)
          unknown := scan.unknown ++ (behind.filterMap Sum.getRight?).map KeyWord.text
          beyond := beyond }, none) := by
  induction behind generalizing scan with
  | nil => exact ⟨scan.beyond, by simp [Scan.run, OptionValues.setAll]⟩
  | cons word behind ih =>
    cases word with
    | inl word =>
      obtain ⟨beyond, last⟩ := @ih
        { scan with values := scan.values.set word.setting.1 word.setting.2 none } single
      refine ⟨beyond, ?_⟩
      rw [List.map_cons, Sum.elim_inl, run_of_next (step_rootWord word single _), last]
      rfl
    | inr word =>
      obtain ⟨looks, ne, foreign⟩ := foreign_keyWord word
      have aside : scan.other word.text =
          { scan with unknown := scan.unknown ++ [word.text], beyond := true } := by
        cases within : scan.beyond with
        | true => rw [other_of_beyond within, ← within]
        | false => exact other_of_looks within looks
      obtain ⟨beyond, last⟩ := @ih
        { scan with unknown := scan.unknown ++ [word.text], beyond := true } single
      refine ⟨beyond, ?_⟩
      have untaken := not_takes_of_not_isRootWord foreign
      rw [List.map_cons, Sum.elim_inr, run_of_next (step_of_not_takes ne single untaken _), aside,
        last, List.append_assoc]
      rfl

/-- The root takes its words wherever they stand, and the command gets the others. -/
theorem route_arguments (before : List RootWord) (behind : List (RootWord ⊕ KeyWord)) :
    standardSuite.route (CommandState.fresh rootCommand).values (arguments before behind) =
      ((CommandState.fresh rootCommand).values.setAll
          ((before ++ behind.filterMap Sum.getLeft?).map RootWord.setting),
        .ok (operationCommand .keyGet, [],
          (behind.filterMap Sum.getRight?).map KeyWord.text)) := by
  let front : Scan :=
    .start ((CommandState.fresh rootCommand).values.setAll (before.map RootWord.setting))
  obtain ⟨beyond, scanned⟩ := @run_behind behind { front with operands := ["key-get"] } rfl
  have whole := (run_start_of_plain isOptionLike_keys standardSuite.context front.values
    (behind.map (Sum.elim RootWord.text KeyWord.text))).trans scanned
  have routed := Suite.route_of_named find?_keys rfl whole
  rw [arguments, route_settings (fun word => step_rootWord word), List.map_append]
  exact routed.trans (Prod.ext (List.foldl_append ..).symm rfl)

/-! ## The command -/

/-- What the command for keys takes. -/
abbrev keyContext : Context := .ofCommand (operationCommand .keyGet)

theorem mem_options_keys {spec : OptionSpec} :
    spec ∈ (operationCommand .keyGet).options ↔
      spec = flagOption Operation.keyFlag ∨ spec = flagOption Operation.uniqueKeyFlag := by
  have options : (operationCommand .keyGet).options =
      [flagOption Operation.keyFlag, flagOption Operation.uniqueKeyFlag] := rfl
  rw [options, List.mem_cons, List.mem_singleton]

/-- How the options of the command are spelled. -/
theorem spelling_keyContext {word : String} {spec : OptionSpec}
    (h : keyContext.find? word = some spec) :
    spec = flagOption Operation.keyFlag ∧ word = "--key" ∨
      spec = flagOption Operation.uniqueKeyFlag ∧ word = "--unique-key" := by
  have spelled : spec.hasSpelling word = true :=
    List.find?_some (p := fun spec : OptionSpec => spec.hasSpelling word) h
  have key : (flagOption Operation.keyFlag).spellings = ⟨none, some "--key"⟩ := rfl
  have uniqueKey : (flagOption Operation.uniqueKeyFlag).spellings =
      ⟨none, some "--unique-key"⟩ := rfl
  rw [OptionSpec.hasSpelling_iff] at spelled
  rcases mem_options_keys.1 (mem_of_find? h) with rfl | rfl
  · rw [key] at spelled
    rcases spelled with short | long
    · cases short
    · cases long
      exact .inl ⟨rfl, rfl⟩
  · rw [uniqueKey] at spelled
    rcases spelled with short | long
    · cases short
    · cases long
      exact .inr ⟨rfl, rfl⟩

theorem find?_keyContext_of_equals {word : String} (equals : '=' ∈ word.toList) :
    keyContext.find? word = none := by
  cases found : keyContext.find? word with
  | none => rfl
  | some spec =>
    rcases spelling_keyContext found with ⟨-, rfl⟩ | ⟨-, rfl⟩
    · exact absurd equals (by decide)
    · exact absurd equals (by decide)

/-- The command takes its words. -/
theorem step_keyWord (word : KeyWord) {scan : Scan} (single : scan.repeated = none)
    (rest : List String) :
    Scan.step keyContext scan word.text rest =
      .next { scan with values := scan.values.set word.setting.1 word.setting.2 none } := by
  cases word with
  | key value =>
    have chars := toList_key (toString value)
    have found : keyContext.find? (String.ofList ('-' :: '-' :: 'k' :: "ey".toList)) =
        some (flagOption Operation.keyFlag) := rfl
    have unfound : keyContext.find? ("--key=" ++ toString value) = none :=
      find?_keyContext_of_equals (by simp [chars])
    have taken := step_of_assignment chars (by decide) found rfl unfound single rest
    rw [String.ofList_toList] at taken
    refine Eq.trans taken ?_
    cases value <;> rfl
  | uniqueKey value =>
    have chars := toList_uniqueKey value
    have found : keyContext.find? (String.ofList ('-' :: '-' :: 'u' :: "nique-key".toList)) =
        some (flagOption Operation.uniqueKeyFlag) := rfl
    have unfound : keyContext.find? ("--unique-key=" ++ value) = none :=
      find?_keyContext_of_equals (by simp [chars])
    have taken := step_of_assignment chars (by decide) found rfl unfound single rest
    rw [String.ofList_toList] at taken
    exact taken

/-- The state of the command after some words. -/
def keyState (words : List KeyWord) : CommandState :=
  ⟨OptionValues.empty.setAll (words.map KeyWord.setting), some .empty⟩

/-- The command takes all its words, and each sets its value. -/
theorem parse_keyWords (parent : Option Parent) (words : List KeyWord) :
    (operationCommand .keyGet).parse parent (.fresh (operationCommand .keyGet)) []
      (words.map KeyWord.text) = (keyState words, none) := by
  have prepared : (CommandState.fresh (operationCommand .keyGet)).prepare =
      ⟨.empty, some .empty⟩ := rfl
  have scanned := @run_settings _ keyContext _ _ step_keyWord words (.start .empty) rfl []
  rw [List.append_nil, Scan.run] at scanned
  rw [Command.parse, prepared]
  dsimp only
  rw [scanned]
  rfl

theorem reached_keyState (words : List KeyWord) :
    CommandState.Reached (operationCommand .keyGet) (keyState words) := by
  have reached := CommandState.Reached.parse none [] (words.map KeyWord.text)
    (@CommandState.Reached.fresh (operationCommand .keyGet))
  rwa [parse_keyWords] at reached

theorem grounded_keyWord (word : KeyWord) : word.setting.1 ≠ Ground.name := by
  have all : (operationCommand .keyGet).IsGrounded :=
    isProper_standardSuite.commands _ (by simp [standardSuite, suiteWith])
  cases word with
  | key value => exact all (flagOption Operation.keyFlag) List.mem_cons_self
  | uniqueKey value =>
    exact all (flagOption Operation.uniqueKeyFlag) (List.mem_cons_of_mem _ List.mem_cons_self)

/-- What a slot of the command holds after some words. -/
theorem setting_keyWords {α : Type} (slot : String) (field? : KeyWord → Option α)
    (toValue : α → Value)
    (own : ∀ word : KeyWord,
      (if word.setting.1 = slot then some word.setting.2 else none) = (field? word).map toValue)
    (plain : Ground.common.get slot = .missing) (words : List KeyWord) :
    ((OptionValues.empty.setAll (words.map KeyWord.setting)).get slot).setting =
      ((words.filterMap field?).getLast?.map fun a => .value (toValue a)).getD .missing := by
  have grounded : ∀ setting ∈ words.map KeyWord.setting, setting.1 ≠ Ground.name :=
    List.forall_mem_map.2 fun word _ => grounded_keyWord word
  unfold OptionValues.get
  rw [OptionValues.lookup_setAll_map grounded_keyWord own,
    OptionValues.ground_setAll grounded]
  cases (words.filterMap field?).getLast? with
  | some a => rfl
  | none => exact plain

/-- The matches are those of the request. -/
theorem matchesOf_keyWords (words : List KeyWord) :
    (operationCommand .keyGet).matchesOf (keyState words).values =
      matchesFor (KeyWord.request words) := by
  have key := setting_keyWords (flagOption Operation.keyFlag).slot KeyWord.key? .bool
    (fun word => by cases word <;> rfl) rfl words
  have uniqueKey := setting_keyWords (flagOption Operation.uniqueKeyFlag).slot KeyWord.uniqueKey?
    .string (fun word => by cases word <;> rfl) rfl words
  have unfolded : ∀ values, (operationCommand .keyGet).matchesOf values =
      let key := (values.get (flagOption Operation.keyFlag).slot).setting
      let uniqueKey := (values.get (flagOption Operation.uniqueKeyFlag).slot).setting
      let m := if key.isMissing then Matches.empty else Matches.empty.insert "key" key
      if uniqueKey.isMissing then m else m.insert "unique-key" uniqueKey := fun values => rfl
  rw [unfolded, keyState, key, uniqueKey, KeyWord.request]
  cases (words.filterMap KeyWord.key?).getLast? <;>
    cases (words.filterMap KeyWord.uniqueKey?).getLast? <;> rfl

/-! ## The whole command line -/

/-- The overrides that some words make. -/
def RootWord.overrides (words : List RootWord) : Config.Overrides :=
  .ofValid (words.filterMap baseUrl?).getLast? (words.filterMap timeout?).getLast?

section

variable {options : SuiteState} {state : CommandState} {words : List RootWord}

theorem overrides_rootWords
    (root : options.root.values = OptionValues.empty.setAll (words.map RootWord.setting))
    (reached : CommandState.Reached (operationCommand .keyGet) state) :
    overrides options (state.take (operationCommand .keyGet)).2 = RootWord.overrides words := by
  have baseUrl := @OptionValues.own?_setAll_map _ _ _ RootWord.baseUrl? (fun url => .string url.1)
    baseUrlOption.slot grounded_rootWord (fun word => by cases word <;> rfl) words
  have timeout := @OptionValues.own?_setAll_map _ _ _ RootWord.timeout? (fun n => .ofNat n.1)
    timeoutOption.slot grounded_rootWord (fun word => by cases word <;> rfl) words
  rw [overrides, globalValue_take reached baseUrlOption (by simp),
    globalValue_take reached timeoutOption (by simp), root, baseUrl, timeout]
  rfl

theorem threshold_rootWords
    (root : options.root.values = OptionValues.empty.setAll (words.map RootWord.setting))
    (reached : CommandState.Reached (operationCommand .keyGet) state) (base : Config) :
    thresholdOf options (state.take (operationCommand .keyGet)).2 (RootWord.laid base words) =
      RootWord.threshold base words := by
  have verbose := @OptionValues.own?_setAll_map _ _ _
    (fun word : RootWord => if word.isVerbose then some () else none) (fun _ => .bool true)
    verboseOption.slot grounded_rootWord (fun word => by cases word <;> rfl) words
  rw [thresholdOf, globalValue_take reached verboseOption (by simp), root, verbose,
    RootWord.threshold]
  cases last : (words.filterMap fun word =>
      if word.isVerbose then some () else none).getLast? with
  | none =>
    have quiet : words.any RootWord.isVerbose = false := by
      simpa [List.getLast?_eq_none_iff, List.filterMap_eq_nil_iff] using last
    rw [quiet]
    rfl
  | some given =>
    obtain ⟨word, mem, isVerbose⟩ := List.mem_filterMap.1 (List.mem_of_getLast? last)
    have found : words.any RootWord.isVerbose = true :=
      List.any_eq_true.2 ⟨word, mem, by simpa using isVerbose⟩
    rw [found]
    rfl

end

/-- The command line comes to sending the request of the words of the command. -/
theorem outcome_arguments (before : List RootWord) (behind : List (RootWord ⊕ KeyWord)) :
    standardSuite.outcome (arguments before behind) =
      .ok (operationCommand .keyGet, keyState (behind.filterMap Sum.getRight?)) := by
  have routed := route_arguments before behind
  have parsed := parse_keyWords (some standardSuite.parent) (behind.filterMap Sum.getRight?)
  have root : (CommandState.fresh standardSuite.root).values =
      (CommandState.fresh rootCommand).values := rfl
  rw [Suite.outcome, root, routed]
  dsimp only
  rw [parsed]

/-- What a command line does by which a client with a configuration sends a request: the client is
made, the hook is asked, the server is asked for the fields of the request, and the outcome is
reported, if there is one. -/
def sent (project : Config.Project) (files : Files.Tree) (threshold : Threshold) (config : Config)
    (request : KeyRequest) (transport : Http.Transport) : Effects :=
  let client := clientOf config.client
  let ended := Dispatch.conclude (Dispatch.ended client transport request)
  .after ((Config.loadEntries project files).map .log)
    ⟨.setThreshold threshold :: .log (dispatchEntry .keyGet config) :: .client config ::
        (Dispatch.asked (.finish .accept) (matchesFor request) request ++
          Dispatch.forwarded client request ++ ended.1), files, ended.2⟩

/-- At most one request is sent, which carries the fields. -/
theorem requested_sent (project : Config.Project) (files : Files.Tree) (threshold : Threshold)
    (config : Config) (request : KeyRequest) (transport : Http.Transport) :
    Dispatch.requested (sent project files threshold config request transport).events =
      ((clientOf config.client).start "/key" (Client.fields request)).request?.toList := by
  have sent : ∀ request : Option Http.Request,
      Dispatch.requested (request.toList.map .send) = request.toList :=
    fun request => by cases request <;> rfl
  have front : ∀ events : List Event, Dispatch.requested (.setThreshold threshold ::
      .log (dispatchEntry .keyGet config) :: .client config :: events) =
      Dispatch.requested events := fun events => rfl
  have asked : Dispatch.requested
      (Dispatch.asked (.finish .accept) (matchesFor request) request) = [] := rfl
  have logged : ∀ events : List Event, Dispatch.requested (.log (Dispatch.stageEntry "sending"
      request) :: .get "/key" (Client.fields request) :: events) =
      Dispatch.requested events := fun events => rfl
  rw [Program.sent, Effects.after]
  dsimp only
  rw [Dispatch.requested_append, Dispatch.requested_map_eq_nil fun _ => rfl, List.nil_append, front,
    Dispatch.requested_append, Dispatch.requested_append, asked, List.nil_append,
    Dispatch.requested_conclude, List.append_nil, Dispatch.forwarded, List.cons_append,
    List.cons_append, logged, Dispatch.requested_append,
    Dispatch.requested_map_eq_nil fun _ => rfl, sent, List.nil_append]

section

variable {project : Config.Project} {files : Files.Tree} {base : Config}

/-- Once the configuration is resolved, the request of the matches is sent. -/
theorem send_of_resolve {options : SuiteState} {command : CommandState} {config : Config}
    (resolved : Config.resolve project files (overrides options command) = .ok config)
    (request : KeyRequest) (transport : Http.Transport) :
    (create project Hook.acceptAll).send .keyGet files options command (matchesFor request)
        transport =
      sent project files (thresholdOf options command config) config request transport := by
  have own : (create project Hook.acceptAll).project = project := rfl
  have hook : (create project Hook.acceptAll).hook = (Hook.Script.finish .accept).run := rfl
  have carried := @Dispatch.run_of_accept (clientOf config.client) (.finish .accept) transport _ _
    (ofFlags_matchesFor request) rfl
  have unwritten : Hook.overwritten request
      (Hook.Script.writes (.finish .accept) (matchesFor request) request) = request := rfl
  rw [unwritten] at carried
  rw [send, own, hook, resolved]
  dsimp only
  rw [carried, sent]

/-- What is sent is made of the words of the root and those of the command, each in their order. -/
theorem effects_eq_sent (holds : Config.Holds project files (.ok base)) (before : List RootWord)
    (behind : List (RootWord ⊕ KeyWord)) (surroundings : Surroundings) :
    let roots := before ++ behind.filterMap Sum.getLeft?
    (create project Hook.acceptAll).effects files (arguments before behind) surroundings =
      sent project files (RootWord.threshold base roots) (RootWord.laid base roots)
        (KeyWord.request (behind.filterMap Sum.getRight?)) surroundings.transport := by
  intro roots
  have proper : (create project Hook.acceptAll).suite.IsProper := isProper_standardSuite
  obtain ⟨options, set, effects⟩ := effects_of_outcome_ok proper files surroundings
    (outcome_arguments before behind) rfl
  have root : options.root.values = OptionValues.empty.setAll (roots.map RootWord.setting) :=
    set.trans (congrArg Prod.fst (route_arguments before behind))
  have reached := reached_keyState (behind.filterMap Sum.getRight?)
  have resolved : Config.resolve project files (RootWord.overrides roots) =
      .ok (RootWord.laid base roots) := Config.resolve_ofValid holds _ _
  rw [← overrides_rootWords root reached] at resolved
  rw [effects, matchesOf_keyWords, send_of_resolve resolved, threshold_rootWords root reached]

/-- **Options in any place.**  Whatever words of the root stand before the name of the command and
among its own words, and in whatever order, one request is sent: by a client made for the
configuration that counts, with the last address and the last time limit of the words in place of its
own, and with the last value for each field of the request, which a server reads in the address that
the request goes to.  So a command line does the same wherever the words of the root stand. -/
theorem effects_arguments (holds : Config.Holds project files (.ok base)) (before : List RootWord)
    (behind : List (RootWord ⊕ KeyWord)) (surroundings : Surroundings) :
    let effects := fun before behind =>
      (create project Hook.acceptAll).effects files (arguments before behind) surroundings
    let roots := before ++ behind.filterMap Sum.getLeft?
    let keys := behind.filterMap Sum.getRight?
    let request := KeyWord.request keys
    effects before behind = sent project files (RootWord.threshold base roots)
        (RootWord.laid base roots) request surroundings.transport ∧
      (∀ asked ∈ Dispatch.requested (effects before behind).events,
        asked.query?.getD [] = Client.fields request) ∧
      ∀ before' behind', before' ++ behind'.filterMap Sum.getLeft? = roots →
        behind'.filterMap Sum.getRight? = keys →
          effects before' behind' = effects before behind := by
  intro effects roots keys request
  have sends : effects before behind = _ := effects_eq_sent holds before behind surroundings
  refine ⟨sends, fun asked mem => ?_, fun before' behind' sameRoots sameKeys => ?_⟩
  · rw [sends, requested_sent, Option.mem_toList] at mem
    exact Client.fields_of_waiting (Started.request?_eq_some_iff.1 mem)
  · have sends' := effects_eq_sent holds before' behind' surroundings
    rw [sameRoots, sameKeys] at sends'
    exact sends'.trans sends.symm

end

/-- Words of the root on both sides of the name, and a value that looks like an option. -/
theorem effects_arguments_mixed :
    let project : Config.Project := ⟨[], "/"⟩
    let surroundings : Surroundings := ⟨⟨[], []⟩, Http.offline⟩
    let url : RootWord := .baseUrl ⟨Config.defaultBaseUrl, ClientConfig.default.isAddress⟩
    let limit : RootWord := .timeout 1 ⟨5, by decide⟩
    let before := [.verbose, url]
    let behind := [.inr (.key true), .inl limit, .inr (.uniqueKey "--help"), .inr (.key false)]
    let config := RootWord.laid Config.default [.verbose, url, limit]
    let effects :=
      (create project Hook.acceptAll).effects .empty (arguments before behind) surroundings
    arguments before behind = ["--verbose", "--base-url=http://localhost:8080", "key-get",
        "--key=true", "--timeout=05", "--unique-key=--help", "--key=false"] ∧
      Config.Holds project .empty (.ok Config.default) ∧
      config.toValue = .object [("version", .ofNat 1),
        ("client", .object [("baseUrl", .string "http://localhost:8080"), ("timeoutMs", .ofNat 5)]),
        ("logLevel", .string "info")] ∧
      effects = sent project .empty (.ofLevel .debug) config ⟨some false, some "--help"⟩
        surroundings.transport ∧
      ∃ asked, Dispatch.requested effects.events = [asked] ∧
        asked.url = "http://localhost:8080/key?key=false&unique_key=--help" ∧
        asked.query?.getD [] =
          [("key".toList, "false".toList), ("unique_key".toList, "--help".toList)] := by
  intro project surroundings url limit before behind config effects
  have holds : Config.Holds project .empty (.ok Config.default) := .nothing rfl
  obtain ⟨sends, reads, -⟩ := effects_arguments holds before behind surroundings
  have roots : before ++ behind.filterMap Sum.getLeft? = [.verbose, url, limit] := rfl
  have request : KeyWord.request (behind.filterMap Sum.getRight?) =
      ⟨some false, some "--help"⟩ := rfl
  have threshold : RootWord.threshold Config.default [.verbose, url, limit] = .ofLevel .debug := rfl
  rw [roots, request, threshold] at sends
  rw [request] at reads
  have sends : effects = _ := sends
  have words : behind.map (Sum.elim RootWord.text KeyWord.text) =
      [KeyWord.text (.key true), limit.text, KeyWord.text (.uniqueKey "--help"),
        KeyWord.text (.key false)] := rfl
  let asked : Http.Request := ⟨"http://localhost:8080/key?key=false&unique_key=--help",
    Client.requestHeaders, 5⟩
  have only : Dispatch.requested effects.events = [asked] := by
    rw [sends, requested_sent]
    decide +kernel
  refine ⟨?_, holds, rfl, sends, asked, only, rfl, reads asked (by rw [only]; simp)⟩
  rw [arguments, words]
  cbv

end Program

end KeyClient
