import KeyClient.Proofs.CommandLine.Reading
import KeyClient.Proofs.Program.Arranged

/-!
# The grammar of the command for keys

Some words spell out a list of settings for the command for keys (`Program.Spells`) if they are
these settings one after another, each with its value in the same word or in the next one, and
perhaps a last `--`.  The command accepts exactly the words that spell something out, and its
matches are those of the request that is spelled (`Program.keys_grammar`).  One step of the scan
reads a setting, sets a word aside or ends in an error (`Program.keyMove_step`); what was set aside
stays there, so a scan that ends with nothing set aside has read settings only.
-/

namespace KeyClient

open KeyClient.CommandLine KeyClient.CommandLine.Scan

namespace CommandLine.Scan

/-- Nothing has been set aside. -/
def IsBare (scan : Scan) : Prop := scan.operands = [] ∧ scan.unknown = []

variable {context : Context} {scan : Scan}

theorem isBare_of_setAside {args : List String} (h : (scan.setAside args).IsBare) :
    scan.IsBare ∧ args = [] := by
  unfold setAside IsBare at h
  split at h
  · obtain ⟨unknown, rfl⟩ := List.append_eq_nil_iff.1 h.2
    exact ⟨⟨h.1, unknown⟩, rfl⟩
  · obtain ⟨operands, rfl⟩ := List.append_eq_nil_iff.1 h.1
    exact ⟨⟨operands, h.2⟩, rfl⟩

theorem not_isBare_other (scan : Scan) (word : String) : ¬ (scan.other word).IsBare := fun h =>
  absurd (isBare_of_setAside h).2 (List.cons_ne_nil _ _)

theorem isBare_of_step {word : String} {rest : List String}
    (h : (step context scan word rest).scan.IsBare) : scan.IsBare := by
  by_cases dashes : word = "--"
  · subst dashes
    rw [step_dashes] at h
    have before := (isBare_of_setAside h).1
    split at before
    · exact (isBare_of_setAside before).1
    · exact before
  · rcases step_cases dashes scan rest with taking | other
    · exact ⟨taking.same.operands.symm.trans h.1, taking.same.unknown.symm.trans h.2⟩
    · rw [other] at h
      exact absurd h (not_isBare_other _ _)

/-- What has been set aside stays there. -/
theorem isBare_of_run {args : List String} (h : (run context scan args).1.IsBare) :
    scan.IsBare := by
  by_contra aside
  exact run_kept (P := fun scan => ¬ scan.IsBare)
    (fun _ _ _ aside bare => aside (isBare_of_step bare)) args aside h

end CommandLine.Scan

namespace Program

/-! ## Spellings -/

/-- The words for one setting: the option with its value behind it, or behind an equals sign. -/
inductive KeyWord.IsSpelled : KeyWord → List String → Prop where
  | key (value : Bool) : IsSpelled (.key value) ["--key", toString value]
  | keyJoined (value : Bool) : IsSpelled (.key value) ["--key=" ++ toString value]
  | uniqueKey (value : String) : IsSpelled (.uniqueKey value) ["--unique-key", value]
  | uniqueKeyJoined (value : String) : IsSpelled (.uniqueKey value) ["--unique-key=" ++ value]

/-- Some words spell out settings, one after another; a last `--` counts for nothing. -/
inductive Spells : List KeyWord → List String → Prop where
  | nothing : Spells [] []
  | dashes : Spells [] ["--"]
  | setting {word : KeyWord} {words : List KeyWord} {spelled rest : List String}
      (first : word.IsSpelled spelled) (others : Spells words rest) :
      Spells (word :: words) (spelled ++ rest)

/-- The option that a setting is for. -/
def KeyWord.option : KeyWord → OptionSpec
  | key _ => flagOption Operation.keyFlag
  | uniqueKey _ => flagOption Operation.uniqueKeyFlag

/-- The name of the option. -/
def KeyWord.name : KeyWord → String
  | key _ => "--key"
  | uniqueKey _ => "--unique-key"

/-- The text of the value. -/
def KeyWord.value : KeyWord → String
  | key value => toString value
  | uniqueKey value => value

theorem KeyWord.isSpelled_apart (word : KeyWord) : word.IsSpelled [word.name, word.value] := by
  cases word with
  | key value => exact .key value
  | uniqueKey value => exact .uniqueKey value

theorem KeyWord.isSpelled_text (word : KeyWord) : word.IsSpelled [word.text] := by
  cases word with
  | key value => exact .keyJoined value
  | uniqueKey value => exact .uniqueKeyJoined value

/-! ## One word -/

section

variable {scan : Scan} {arg : String} {rest : List String}

/-- What is known after a setting. -/
def KeyWord.store (word : KeyWord) (scan : Scan) : Scan :=
  { scan with values := scan.values.set word.setting.1 word.setting.2 none }

theorem KeyWord.occur_eq (word : KeyWord) (scan : Scan) :
    keyContext.occur word.option (.text word.value) scan = (word.store scan, none) := by
  cases word with
  | key value => cases value <;> rfl
  | uniqueKey value => rfl

/-- The command takes a value for an option if the two are a setting, and objects otherwise. -/
theorem occur_keyContext {spec : OptionSpec} (mem : spec ∈ (operationCommand .keyGet).options)
    (value : String) (scan : Scan) :
    (∃ word : KeyWord, word.option = spec ∧ word.value = value ∧
      keyContext.occur spec (.text value) scan = (word.store scan, none)) ∨
    ∃ error, keyContext.occur spec (.text value) scan = (scan, some error) := by
  rcases mem_options_keys.1 mem with rfl | rfl
  · by_cases yes : value = "true"
    · subst yes
      exact .inl ⟨.key true, rfl, rfl, (KeyWord.key true).occur_eq scan⟩
    · by_cases no : value = "false"
      · subst no
        exact .inl ⟨.key false, rfl, rfl, (KeyWord.key false).occur_eq scan⟩
      · have refused : parseBoolean (.string value) =
            .error "Expected \"true\" or \"false\"." := by
          unfold parseBoolean
          split <;> simp_all
        refine .inr ⟨.invalidArgument (flagOption Operation.keyFlag).flags value
          "Expected \"true\" or \"false\".", ?_⟩
        have converted : (flagOption Operation.keyFlag).convert
            (scan.values.get (flagOption Operation.keyFlag).slot) (.string value) =
              (parseBoolean (.string value)).map .bool := rfl
        have occurs : keyContext.occur (flagOption Operation.keyFlag) (.text value) scan =
            storeAll (.text value) scan [flagOption Operation.keyFlag] := rfl
        rw [occurs, storeAll, Scan.store, OptionSpec.receive_text rfl, converted, refused]
        rfl
  · exact .inl ⟨.uniqueKey value, rfl, rfl, (KeyWord.uniqueKey value).occur_eq scan⟩

/-- How the scan goes on at a word. -/
inductive KeyMove (scan : Scan) : String → List String → Move → Prop where
  | dashes {rest : List String} :
      KeyMove scan "--" rest
        (.stop ((if scan.beyond then scan.setAside ["--"] else scan).setAside rest) none)
  | joined {word : KeyWord} {arg : String} {rest : List String} (spelled : word.IsSpelled [arg]) :
      KeyMove scan arg rest (.next (word.store scan))
  | apart {word : KeyWord} {arg value : String} {rest : List String}
      (spelled : word.IsSpelled [arg, value]) :
      KeyMove scan arg (value :: rest) (.skip (word.store scan))
  | refused {arg : String} {rest : List String} (after : Scan) (error : UsageError) :
      KeyMove scan arg rest (.stop after (some error))
  | aside {arg : String} {rest : List String} : KeyMove scan arg rest (.next (scan.other arg))

theorem KeyWord.name_of_option {word : KeyWord} {spelling : String}
    (h : keyContext.find? spelling = some word.option) : spelling = word.name := by
  cases word with
  | key value =>
    rcases spelling_keyContext h with ⟨-, rfl⟩ | ⟨other, -⟩
    · rfl
    · cases congrArg OptionSpec.flags other
  | uniqueKey value =>
    rcases spelling_keyContext h with ⟨other, -⟩ | ⟨-, rfl⟩
    · cases congrArg OptionSpec.flags other
    · rfl

theorem KeyWord.text_eq (word : KeyWord) : word.text = word.name ++ "=" ++ word.value := by
  cases word with
  | key value => exact congrArg (· ++ toString value) (by decide : "--key=" = "--key" ++ "=")
  | uniqueKey value =>
    exact congrArg (· ++ value) (by decide : "--unique-key=" = "--unique-key" ++ "=")

theorem valued_keys {spec : OptionSpec} (mem : spec ∈ (operationCommand .keyGet).options) :
    spec.isRequired = true ∧ spec.isVariadic = false := by
  rcases mem_options_keys.1 mem with rfl | rfl <;> decide

/-- An option takes the word behind it, whatever it looks like. -/
theorem whole_keyContext {spec : OptionSpec} (mem : spec ∈ (operationCommand .keyGet).options)
    (single : scan.repeated = none) (value : String) (rest : List String) :
    whole keyContext spec (value :: rest) scan =
      .after .skip (keyContext.occur spec (.text value) scan) := by
  obtain ⟨required, notVariadic⟩ := valued_keys mem
  unfold whole
  dsimp only
  rw [if_pos required, notVariadic, if_neg Bool.false_ne_true]
  exact after_occur .skip single

theorem keyMove_whole {spec : OptionSpec} (single : scan.repeated = none)
    (found : keyContext.find? arg = some spec) :
    KeyMove scan arg rest (whole keyContext spec rest scan) := by
  have mem := mem_of_find? found
  cases rest with
  | nil =>
    unfold whole
    dsimp only
    rw [if_pos (valued_keys mem).1]
    exact .refused _ _
  | cons value rest =>
    rw [whole_keyContext mem single]
    rcases occur_keyContext mem value scan with ⟨word, rfl, rfl, occurs⟩ | ⟨error, occurs⟩
    · obtain rfl := KeyWord.name_of_option found
      rw [occurs]
      exact .apart word.isSpelled_apart
    · rw [occurs]
      exact .refused _ _

theorem keyMove_assignment {spec : OptionSpec} {value : String}
    (assigned : assignment? keyContext arg = some (spec, value)) :
    KeyMove scan arg rest (.after .next (keyContext.occur spec (.text value) scan)) := by
  obtain ⟨name, chars, found, -⟩ := parts_of_assignment? assigned
  rcases occur_keyContext (mem_of_find? found) value scan with
    ⟨word, rfl, rfl, occurs⟩ | ⟨error, occurs⟩
  · have spelled : '-' :: '-' :: name = word.name.toList := by
      rw [← KeyWord.name_of_option found, String.toList_ofList]
    have same : arg = word.text := by
      rw [← String.toList_inj, chars, word.text_eq, String.toList_append, String.toList_append,
        ← spelled]
      simp
    rw [occurs]
    exact .joined (same ▸ word.isSpelled_text)
  · rw [occurs]
    exact .refused _ _

theorem step_apart (word : KeyWord) (single : scan.repeated = none) (rest : List String) :
    Scan.step keyContext scan word.name (word.value :: rest) = .skip (word.store scan) := by
  have same : { scan with repeated := none } = scan := by rw [← single]
  have names : ∀ name ∈ ["--key", "--unique-key"], isOptionLike name = true ∧ name ≠ "--" := by
    decide
  obtain ⟨looks, ne⟩ := names word.name (by cases word <;> simp [KeyWord.name])
  have found : keyContext.find? word.name = some word.option := by cases word <;> rfl
  rw [Scan.step, if_neg ne, single, ite_self]
  dsimp only
  rw [same, if_pos looks, found]
  dsimp only
  rw [whole_keyContext (mem_of_find? found) single, word.occur_eq]
  rfl

/-- No option of the command is a single letter. -/
theorem group?_keyContext (arg : String) : group? keyContext arg = none := by
  refine Option.not_isSome_iff_eq_none.1 fun grouped => ?_
  obtain ⟨c, d, rest, spec, -, found⟩ := letter_of_group? grouped
  have short : ∀ spelling ∈ ["--key", "--unique-key"], spelling.length ≠ 2 := by decide
  have two : (String.ofList ['-', c]).length = 2 := by
    rw [← String.length_toList, String.toList_ofList]
    rfl
  rcases spelling_keyContext found with ⟨-, same⟩ | ⟨-, same⟩
  · exact short "--key" (by simp) (same ▸ two)
  · exact short "--unique-key" (by simp) (same ▸ two)

theorem keyMove_step (single : scan.repeated = none) :
    KeyMove scan arg rest (Scan.step keyContext scan arg rest) := by
  by_cases dashes : arg = "--"
  · subst dashes
    exact .dashes
  have same : { scan with repeated := none } = scan := by rw [← single]
  rw [Scan.step, if_neg dashes, single, ite_self]
  dsimp only
  rw [same]
  cases found : (if isOptionLike arg then keyContext.find? arg else none) with
  | some spec =>
    split at found
    · exact keyMove_whole single found
    · cases found
  | none =>
    rw [group?_keyContext]
    dsimp only
    cases assigned : assignment? keyContext arg with
    | some assignment => exact keyMove_assignment assigned
    | none => exact .aside

end

/-! ## All words -/

/-- A scan that ends well with nothing set aside has read what the words spell. -/
theorem spells_of_run {args : List String} {scan last : Scan} (single : scan.repeated = none)
    (h : Scan.run keyContext scan args = (last, none)) (bare : last.IsBare) :
    ∃ words, Spells words args := by
  induction scan, args using Scan.run.induct keyContext with
  | case1 scan => exact ⟨[], .nothing⟩
  | case2 scan arg rest after moved ih =>
    have move := moved ▸ keyMove_step single
    rw [run_of_next moved] at h
    cases move with
    | joined spelled =>
      obtain ⟨words, spells⟩ := ih single h
      exact ⟨_, .setting spelled spells⟩
    | aside =>
      have before : Scan.IsBare (Scan.run keyContext (scan.other arg) rest).1 := by
        rw [h]
        exact bare
      exact absurd (isBare_of_run before) (not_isBare_other scan arg)
  | case3 scan arg rest after moved ih =>
    have move := moved ▸ keyMove_step single
    rw [run_of_skip moved] at h
    cases move with
    | apart spelled =>
      obtain ⟨words, spells⟩ := ih single h
      exact ⟨_, .setting spelled spells⟩
  | case4 scan arg rest after moved =>
    -- no option of the command is in a group
    have move := moved ▸ keyMove_step single
    cases move
  | case5 scan arg rest after moved =>
    have move := moved ▸ keyMove_step single
    cases move
  | case6 scan arg rest after error moved =>
    have move := moved ▸ keyMove_step single
    rw [run_of_stop moved] at h
    cases h
    cases move with
    | dashes =>
      obtain ⟨-, rfl⟩ := isBare_of_setAside bare
      exact ⟨[], .dashes⟩

/-- The command reads what some words spell. -/
theorem run_of_spells {words : List KeyWord} {args : List String} (spells : Spells words args)
    {scan : Scan} (single : scan.repeated = none) (within : scan.beyond = false) :
    Scan.run keyContext scan args =
      ({ scan with values := scan.values.setAll (words.map KeyWord.setting) }, none) := by
  induction spells generalizing scan with
  | nothing => simp [Scan.run, OptionValues.setAll]
  | dashes =>
    rw [run_of_stop (step_dashes scan [])]
    simp [setAside, within, OptionValues.setAll]
  | @setting word words spelled rest first others ih =>
    have last := @ih (word.store scan) single within
    have read : Scan.run keyContext scan (spelled ++ rest) =
        Scan.run keyContext (word.store scan) rest := by
      cases first with
      | key value => exact run_of_skip (step_apart (.key value) single rest)
      | keyJoined value => exact run_of_next (step_keyWord (.key value) single rest)
      | uniqueKey value => exact run_of_skip (step_apart (.uniqueKey value) single rest)
      | uniqueKeyJoined value => exact run_of_next (step_keyWord (.uniqueKey value) single rest)
    rw [read, last]
    rfl

/-! ## The command on its own -/

/-- What the command makes of some words depends on what they spell, and on nothing else. -/
theorem keysAlone_of_spells {words : List KeyWord} {args : List String}
    (spells : Spells words args) : keysAlone args = (keyState words, none) := by
  have prepared : (CommandState.fresh (operationCommand .keyGet)).prepare =
      ⟨.empty, some .empty⟩ := rfl
  rw [keysAlone, Command.parse, prepared]
  dsimp only
  rw [run_of_spells spells rfl rfl]
  rfl

theorem exists_spells_of_keysAlone {args : List String} (h : (keysAlone args).2 = none) :
    ∃ words, Spells words args := by
  obtain ⟨ends, -, known, bare⟩ := (Command.parse_eq_none_iff none _ [] args).1 h
  exact spells_of_run rfl (Prod.ext rfl ends) ⟨bare, known⟩

/-- **The grammar of the command for keys.**  On its own, the command for keys accepts some words
exactly if they spell out settings: `--key` with `true` or `false` and `--unique-key` with any
text, each in the next word or behind an equals sign, and perhaps a last `--`.  Its matches are
then the last value of each option that is set, and nothing else; all other words end in an
error. -/
theorem keys_grammar :
    ∃ command, commandFor "key-get" = .ok command ∧ ∀ args,
      let parsed := command.parse none (.fresh command) [] args
      (parsed.2 = none ↔ ∃ words, Spells words args) ∧
        (∀ words, Spells words args →
          command.matchesOf parsed.1.values = matchesFor (KeyWord.request words)) ∧
        ((¬ ∃ words, Spells words args) → ∃ halt, parsed.2 = some halt) := by
  refine ⟨operationCommand .keyGet, rfl, fun args => ?_⟩
  intro parsed
  have accepts : parsed.2 = none ↔ ∃ words, Spells words args :=
    ⟨exists_spells_of_keysAlone, fun ⟨words, spells⟩ =>
      congrArg Prod.snd (keysAlone_of_spells spells)⟩
  refine ⟨accepts, fun words spells => ?_, fun unspelled => ?_⟩
  · have read : parsed.1 = keyState words := congrArg Prod.fst (keysAlone_of_spells spells)
    rw [read]
    exact matchesOf_keyWords words
  · exact Option.ne_none_iff_exists'.1 fun accepted => unspelled (accepts.1 accepted)

/-- Values that look like options, or like the end of the options. -/
theorem keys_grammar_option_like :
    let args := ["--unique-key", "--", "--key=false", "--unique-key=--help", "--key", "true", "--"]
    Spells [.uniqueKey "--", .key false, .uniqueKey "--help", .key true] args ∧
      ∃ command, commandFor "key-get" = .ok command ∧
        let parsed := command.parse none (.fresh command) [] args
        parsed.2 = none ∧ command.matchesOf parsed.1.values =
          ⟨[("key", .value (.bool true)), ("unique-key", .value (.string "--help"))]⟩ := by
  intro args
  have spells : Spells [.uniqueKey "--", .key false, .uniqueKey "--help", .key true] args :=
    .setting (.uniqueKey "--") <| .setting (.keyJoined false) <|
      .setting (.uniqueKeyJoined "--help") <| .setting (.key true) .dashes
  obtain ⟨command, named, grammar⟩ := keys_grammar
  obtain ⟨accepts, read, -⟩ := grammar args
  exact ⟨spells, command, named, accepts.2 ⟨_, spells⟩, read _ spells⟩

end Program

end KeyClient
