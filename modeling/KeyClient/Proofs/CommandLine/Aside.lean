import KeyClient.Proofs.CommandLine.Scan
import KeyClient.Proofs.Text.Split

/-!
# Words that a scan sets aside

A context takes a word if it is one of its options, alone or with more behind it
(`Scan.Context.Takes`).  A scan sets all other words aside as they are (`Scan.run_of_ignores`): the
operands at the start, and the rest from the first word on that looks like an option.  Of a word
that is taken a shorter one is set aside at most (`Scan.run_singleton`).
-/

namespace KeyClient.CommandLine.Scan

/-! ## Words that are taken -/

theorem isOptionLike_of_toList {word : String} {c : Char} {rest : List Char}
    (chars : word.toList = '-' :: c :: rest) : isOptionLike word = true := by
  simp [isOptionLike, chars]

theorem mem_of_find? {command : Command} {word : String} {spec : OptionSpec}
    (h : (Context.ofCommand command).find? word = some spec) : spec ∈ command.options :=
  List.mem_of_find?_eq_some h

/-- A group of options starts with one of a single letter. -/
theorem letter_of_group? {context : Context} {word : String} (h : (group? context word).isSome) :
    ∃ c d rest spec, word.toList = '-' :: c :: d :: rest ∧
      context.find? (String.ofList ['-', c]) = some spec := by
  unfold group? at h
  split at h
  · next c d rest chars =>
    split at h
    · cases h
    · rw [Option.isSome_map] at h
      obtain ⟨spec, found⟩ := Option.isSome_iff_exists.1 h
      exact ⟨c, d, rest, spec, chars, found⟩
  · cases h

/-- A value behind an equals sign belongs to an option that takes one. -/
theorem parts_of_assignment? {context : Context} {word value : String} {spec : OptionSpec}
    (h : assignment? context word = some (spec, value)) :
    ∃ name, word.toList = '-' :: '-' :: (name ++ '=' :: value.toList) ∧
      context.find? (String.ofList ('-' :: '-' :: name)) = some spec ∧
      (spec.isRequired || spec.isOptional) = true := by
  unfold assignment? at h
  split at h
  · next c cs chars =>
    split at h
    · cases h
    · rcases Text.cut_cases (· == '=') (c :: cs) with
        ⟨-, cuts⟩ | ⟨name, separator, value, parts, equals, -, cuts⟩
      · rw [cuts] at h
        cases h
      · obtain rfl := eq_of_beq equals
        rw [cuts] at h
        obtain ⟨found, here, same⟩ := Option.map_eq_some_iff.1 h
        cases same
        obtain ⟨here, valued⟩ := Option.filter_eq_some_iff.1 here
        exact ⟨name, by rw [chars, parts, String.toList_ofList], here, valued⟩
  · cases h

theorem name_of_assignment? {context : Context} {word : String}
    (h : (assignment? context word).isSome) :
    ∃ name value spec, word.toList = '-' :: '-' :: (name ++ '=' :: value) ∧
      context.find? (String.ofList ('-' :: '-' :: name)) = some spec ∧
      (spec.isRequired || spec.isOptional) = true := by
  obtain ⟨⟨spec, value⟩, assigned⟩ := Option.isSome_iff_exists.1 h
  obtain ⟨name, chars, found, valued⟩ := parts_of_assignment? assigned
  exact ⟨name, value.toList, spec, chars, found, valued⟩

/-- The word is an option of the context, alone or with more behind it. -/
structure Context.Takes (context : Context) (word : String) : Prop where
  looks : isOptionLike word = true
  ne : word ≠ "--"
  found : (context.find? word).isSome ∨ (group? context word).isSome ∨
    (assignment? context word).isSome

/-- The context takes none of the words before `--`. -/
def Context.Ignores (context : Context) (args : List String) : Prop :=
  ∀ word ∈ args.takeWhile (· ≠ "--"), ¬ context.Takes word

variable {context : Context} {scan : Scan} {word : String} {args rest : List String}

theorem not_takes_of_plain (plain : isOptionLike word = false) : ¬ context.Takes word :=
  fun takes => by
    have looks := takes.looks
    rw [plain] at looks
    cases looks

theorem ne_dashes_of_plain (plain : isOptionLike word = false) : word ≠ "--" := by
  rintro rfl
  cases plain

/-- The letter of an option may have more behind it. -/
theorem takes_of_letter {c : Char} {rest : List Char} (chars : word.toList = '-' :: c :: rest)
    (ne : c ≠ '-') (found : (context.find? (String.ofList ['-', c])).isSome) :
    context.Takes word := by
  have looks := isOptionLike_of_toList chars
  have notDashes : word ≠ "--" := by
    rintro rfl
    cases chars
    exact ne rfl
  cases rest with
  | nil =>
    have same : word = String.ofList ['-', c] := by rw [← chars, String.ofList_toList]
    exact ⟨looks, notDashes, .inl (same ▸ found)⟩
  | cons d rest =>
    refine ⟨looks, notDashes, .inr (.inl ?_)⟩
    simpa [group?, chars, ne] using found

section

variable {c : Char} {name value : List Char} {spec : OptionSpec}

/-- The name of an option with a value may have an equals sign and the value behind it. -/
theorem assignment?_of_toList (chars : word.toList = '-' :: '-' :: c :: (name ++ '=' :: value))
    (plain : '=' ∉ c :: name)
    (found : context.find? (String.ofList ('-' :: '-' :: c :: name)) = some spec)
    (valued : (spec.isRequired || spec.isOptional) = true) :
    assignment? context word = some (spec, String.ofList value) := by
  have clear : ∀ d ∈ c :: name, (d == '=') = false :=
    fun d mem => beq_eq_false_iff_ne.2 fun same => plain (same ▸ mem)
  have first : c ≠ '=' := fun same => plain (same ▸ List.mem_cons_self)
  have cuts : Text.cut (· == '=') (c :: (name ++ '=' :: value)) = (c :: name, some value) :=
    Text.cut_append_cons clear rfl value
  simp only [assignment?, chars, if_neg first, cuts, found, Option.filter_some, if_pos valued,
    Option.map_some]

theorem takes_of_assignment (chars : word.toList = '-' :: '-' :: c :: (name ++ '=' :: value))
    (plain : '=' ∉ c :: name)
    (found : context.find? (String.ofList ('-' :: '-' :: c :: name)) = some spec)
    (valued : (spec.isRequired || spec.isOptional) = true) : context.Takes word := by
  have notDashes : word ≠ "--" := by
    rintro rfl
    cases chars
  refine ⟨isOptionLike_of_toList chars, notDashes, .inr (.inr ?_)⟩
  rw [assignment?_of_toList chars plain found valued]
  rfl

/-- The value behind an equals sign counts, whatever it is. -/
theorem step_of_assignment (chars : word.toList = '-' :: '-' :: c :: (name ++ '=' :: value))
    (plain : '=' ∉ c :: name)
    (found : context.find? (String.ofList ('-' :: '-' :: c :: name)) = some spec)
    (valued : (spec.isRequired || spec.isOptional) = true) (unfound : context.find? word = none)
    (single : scan.repeated = none) (rest : List String) :
    step context scan word rest =
      .after .next (context.occur spec (.text (String.ofList value)) scan) := by
  have same : { scan with repeated := none } = scan := by rw [← single]
  have notDashes : word ≠ "--" := by
    rintro rfl
    cases chars
  have notGroup : group? context word = none := by simp [group?, chars]
  rw [step, if_neg notDashes, single, ite_self]
  dsimp only
  rw [unfound, ite_self, notGroup, assignment?_of_toList chars plain found valued, same]

end

theorem takeWhile_ne_dashes (ne : word ≠ "--") (rest : List String) :
    (word :: rest).takeWhile (· ≠ "--") = word :: rest.takeWhile (· ≠ "--") :=
  List.takeWhile_cons_of_pos (by simpa using ne)

theorem Context.ignores_cons_iff (ne : word ≠ "--") :
    context.Ignores (word :: rest) ↔ ¬ context.Takes word ∧ context.Ignores rest := by
  rw [Ignores, takeWhile_ne_dashes ne, List.forall_mem_cons]
  rfl

/-! ## One word -/

/-- An occurrence of an option changes values only. -/
theorem storeAll_eq (given : Given) (scan : Scan) (specs : List OptionSpec) :
    ∃ values, (storeAll given scan specs).1 = { scan with values := values } := by
  induction specs generalizing scan with
  | nil => exact ⟨scan.values, rfl⟩
  | cons spec rest ih =>
    unfold storeAll store
    split
    · next after stored =>
      split at stored
      · cases stored
        exact ih _
      · cases stored
    · next after error stored =>
      split at stored
      · cases stored
      · cases stored
        exact ⟨scan.values, rfl⟩

theorem occur_eq (context : Context) (spec : OptionSpec) (given : Given) (scan : Scan) :
    ∃ values, (context.occur spec given scan).1 = { scan with values := values } := by
  unfold Context.occur
  split
  · split
    · exact ⟨scan.values, rfl⟩
    · exact storeAll_eq _ _ _
  · exact storeAll_eq _ _ _

/-- The same words have been set aside. -/
structure SameWords (scan other : Scan) : Prop where
  operands : scan.operands = other.operands
  unknown : scan.unknown = other.unknown
  beyond : scan.beyond = other.beyond

/-- The scan goes on behind the word or with a shorter one, or it ends in an error. -/
def Move.UsesUp (word : String) : Move → Prop
  | next _ | skip _ => True
  | regroup after => after.repeated = none ∧ 2 < word.length
  | stop _ error => error.isSome

/-- The scan takes the word: nothing is set aside. -/
structure Move.IsTaking (scan : Scan) (word : String) (move : Move) : Prop where
  same : move.scan.SameWords scan
  uses : move.UsesUp word

theorem isTaking_after {move : Scan → Move} {spec : OptionSpec} {given : Given} {before : Scan}
    (h : ∀ after, after.SameWords before → after.repeated = before.repeated →
      (move after).IsTaking scan word) (words : before.SameWords scan) :
    (Move.after move (context.occur spec given before)).IsTaking scan word := by
  obtain ⟨values, after⟩ := occur_eq context spec given before
  cases occurred : context.occur spec given before with
  | mk last error =>
    rw [occurred] at after
    subst after
    cases error with
    | some error => exact ⟨⟨words.operands, words.unknown, words.beyond⟩, rfl⟩
    | none => exact h _ ⟨rfl, rfl, rfl⟩ rfl

theorem isTaking_whole (spec : OptionSpec) (rest : List String) :
    (whole context spec rest scan).IsTaking scan word := by
  have refl : scan.SameWords scan := ⟨rfl, rfl, rfl⟩
  have done : ∀ {after : Scan} {repeated : Option OptionSpec}, after.SameWords scan →
      ({ after with repeated := repeated } : Scan).SameWords scan :=
    fun same => ⟨same.operands, same.unknown, same.beyond⟩
  unfold whole
  dsimp only
  split
  · split
    · exact ⟨refl, rfl⟩
    · exact isTaking_after (fun after same _ => ⟨done same, trivial⟩) refl
  · split
    · split
      · split
        · exact isTaking_after (fun after same _ => ⟨done same, trivial⟩) refl
        · exact isTaking_after (fun after same _ => ⟨done same, trivial⟩) refl
      · exact isTaking_after (fun after same _ => ⟨done same, trivial⟩) refl
    · exact isTaking_after (fun after same _ => ⟨done same, trivial⟩) refl

theorem two_lt_length_of_group? (h : (group? context word).isSome) : 2 < word.length := by
  obtain ⟨c, d, rest, -, chars, -⟩ := letter_of_group? h
  rw [← String.length_toList, chars]
  simp

/-- The option that wants more values gets no word that looks like an option. -/
theorem step_of_repeated {spec : OptionSpec} (repeated : scan.repeated = some spec)
    (plain : isOptionLike word = false) (rest : List String) :
    (step context scan word rest).IsTaking scan word := by
  have refl : scan.SameWords scan := ⟨rfl, rfl, rfl⟩
  rw [step, if_neg (ne_dashes_of_plain plain), plain, if_neg Bool.false_ne_true, repeated]
  exact isTaking_after (fun after same _ => ⟨same, trivial⟩) refl

theorem step_eq_of_single (ne : word ≠ "--")
    (single : (if isOptionLike word then none else scan.repeated) = none) (rest : List String) :
    step context scan word rest = step context { scan with repeated := none } word rest := by
  rw [step, step, if_neg ne, if_neg ne, single]
  dsimp only
  rw [ite_self]

/-- A word that is taken is not set aside. -/
theorem step_of_takes (single : scan.repeated = none) (h : context.Takes word)
    (rest : List String) : (step context scan word rest).IsTaking scan word := by
  have same : { scan with repeated := none } = scan := by rw [← single]
  have refl : scan.SameWords scan := ⟨rfl, rfl, rfl⟩
  have notRepeated : (if isOptionLike word then none else scan.repeated) = none := by
    rw [single, ite_self]
  rw [step, if_neg h.ne, notRepeated]
  dsimp only
  rw [same, if_pos h.looks]
  split
  · exact isTaking_whole _ _
  · next notOption =>
    split
    · exact isTaking_after (fun after same _ => ⟨same, trivial⟩) refl
    · next spec value grouped =>
      have long := two_lt_length_of_group? (by rw [grouped]; rfl)
      exact isTaking_after (fun after same repeated => ⟨same, repeated.trans single, long⟩) refl
    · next notGroup =>
      split
      · exact isTaking_after (fun after same _ => ⟨same, trivial⟩) refl
      · next notAssignment =>
        rcases h.found with found | found | found
        · rw [notOption] at found
          cases found
        · rw [notGroup] at found
          cases found
        · rw [notAssignment] at found
          cases found

/-- A word that is not taken is set aside as it is. -/
theorem step_of_not_takes (ne : word ≠ "--") (single : scan.repeated = none)
    (h : ¬ context.Takes word) (rest : List String) :
    step context scan word rest = .next (scan.other word) := by
  have same : { scan with repeated := none } = scan := by rw [← single]
  have none_of : ∀ {α : Type} {found : Option α}, (found.isSome → context.Takes word) →
      found = none := fun takes => Option.not_isSome_iff_eq_none.1 fun found => h (takes found)
  have notGroup : group? context word = none := none_of fun found =>
    have ⟨_, _, _, _, chars, _⟩ := letter_of_group? found
    ⟨isOptionLike_of_toList chars, ne, .inr (.inl found)⟩
  have notAssignment : assignment? context word = none := none_of fun found =>
    have ⟨_, _, _, chars, _⟩ := name_of_assignment? found
    ⟨isOptionLike_of_toList chars, ne, .inr (.inr found)⟩
  have notOption : (if isOptionLike word then context.find? word else none) = none := by
    split
    · next looks => exact none_of fun found => ⟨looks, ne, .inl found⟩
    · rfl
  have notRepeated : (if isOptionLike word then none else scan.repeated) = none := by
    rw [single, ite_self]
  rw [step, if_neg ne, notRepeated]
  dsimp only
  rw [notOption, notGroup, notAssignment, same]

/-- What a step can do: it takes the word or sets it aside. -/
theorem step_cases (ne : word ≠ "--") (scan : Scan) (rest : List String) :
    (step context scan word rest).IsTaking scan word ∨
      step context scan word rest = .next ({ scan with repeated := none }.other word) := by
  cases repeated : (if isOptionLike word then none else scan.repeated) with
  | some spec =>
    cases plain : isOptionLike word with
    | true =>
      rw [plain] at repeated
      cases repeated
    | false =>
      rw [plain] at repeated
      exact .inl (step_of_repeated repeated plain rest)
  | none =>
    rw [step_eq_of_single ne repeated]
    by_cases takes : context.Takes word
    · have single : ({ scan with repeated := none } : Scan).repeated = none := rfl
      have taking := step_of_takes single takes rest
      exact .inl ⟨⟨taking.same.operands, taking.same.unknown, taking.same.beyond⟩, taking.uses⟩
    · exact .inr (step_of_not_takes ne rfl takes rest)

theorem step_of_plain (plain : isOptionLike word = false) (single : scan.repeated = none)
    (rest : List String) : step context scan word rest = .next (scan.other word) :=
  step_of_not_takes (ne_dashes_of_plain plain) single (not_takes_of_plain plain) rest

theorem step_dashes (scan : Scan) (rest : List String) :
    step context scan "--" rest =
      .stop ((if scan.beyond then scan.setAside ["--"] else scan).setAside rest) none := rfl

/-- Operands that were found are not lost. -/
theorem operands_step (scan : Scan) (word : String) (rest : List String) :
    scan.operands <+: (step context scan word rest).scan.operands := by
  have aside : ∀ (scan : Scan) (args : List String),
      scan.operands <+: (scan.setAside args).operands := by
    intro scan args
    unfold setAside
    split
    · exact List.prefix_rfl
    · exact List.prefix_append _ _
  by_cases dashes : word = "--"
  · subst dashes
    rw [step_dashes]
    refine List.IsPrefix.trans ?_ (aside _ rest)
    split
    · exact aside scan ["--"]
    · exact List.prefix_rfl
  · rcases step_cases dashes scan rest with taking | other
    · exact ⟨[], by rw [List.append_nil, taking.same.operands]⟩
    · rw [other]
      exact aside { scan with repeated := none, beyond := scan.beyond || isOptionLike word } [word]

theorem other_of_beyond (beyond : scan.beyond = true) (word : String) :
    scan.other word = { scan with unknown := scan.unknown ++ [word] } := by
  simp [other, setAside, beyond]

theorem other_of_looks (within : scan.beyond = false) (looks : isOptionLike word = true) :
    scan.other word = { scan with unknown := scan.unknown ++ [word], beyond := true } := by
  simp [other, setAside, within, looks]

theorem other_of_plain (within : scan.beyond = false) (plain : isOptionLike word = false) :
    scan.other word = { scan with operands := scan.operands ++ [word] } := by
  simp [other, setAside, within, plain]

/-! ## All words -/

theorem operands_run (context : Context) (scan : Scan) (args : List String) :
    scan.operands <+: (run context scan args).1.operands :=
  run_kept (P := fun other => scan.operands <+: other.operands)
    (fun other word rest h => h.trans (operands_step other word rest)) args List.prefix_rfl

/-- The operands at the start of some arguments, and the rest from the first word on that looks
like an option. -/
def divide : List String → List String × List String
  | [] => ([], [])
  | arg :: rest =>
    if arg = "--" then (rest, [])
    else if isOptionLike arg then ([], arg :: rest)
    else (arg :: (divide rest).1, (divide rest).2)

theorem divide_dashes (rest : List String) : divide ("--" :: rest) = (rest, []) := rfl

theorem divide_of_looks (looks : isOptionLike word = true) (ne : word ≠ "--")
    (rest : List String) : divide (word :: rest) = ([], word :: rest) := by
  rw [divide, if_neg ne, if_pos looks]

theorem divide_of_plain (plain : isOptionLike word = false) (rest : List String) :
    divide (word :: rest) = (word :: (divide rest).1, (divide rest).2) := by
  rw [divide, if_neg (ne_dashes_of_plain plain), plain, if_neg Bool.false_ne_true]

theorem run_of_ignores_of_beyond (scan : Scan) (single : scan.repeated = none)
    (beyond : scan.beyond = true) (h : context.Ignores args) :
    run context scan args = ({ scan with unknown := scan.unknown ++ args }, none) := by
  induction args generalizing scan with
  | nil => rw [run, List.append_nil]
  | cons word rest ih =>
    by_cases dashes : word = "--"
    · subst dashes
      rw [run_of_stop (step_dashes scan rest)]
      simp [beyond, setAside]
    · obtain ⟨untaken, ignored⟩ := (Context.ignores_cons_iff dashes).1 h
      have last := ih { scan with unknown := scan.unknown ++ [word] } single beyond ignored
      rw [run_of_next (step_of_not_takes dashes single untaken rest), other_of_beyond beyond, last]
      simp

/-- A scan sets the words that it ignores aside as they are. -/
theorem run_of_ignores (scan : Scan) (single : scan.repeated = none) (within : scan.beyond = false)
    (h : context.Ignores args) :
    ∃ beyond, run context scan args =
      (⟨scan.values, scan.operands ++ (divide args).1, scan.unknown ++ (divide args).2, beyond,
        none⟩, none) := by
  induction args generalizing scan with
  | nil => exact ⟨scan.beyond, by rw [run, divide, List.append_nil, List.append_nil, ← single]⟩
  | cons word rest ih =>
    by_cases dashes : word = "--"
    · subst dashes
      refine ⟨scan.beyond, ?_⟩
      rw [run_of_stop (step_dashes scan rest)]
      simp [within, setAside, divide_dashes, single]
    · obtain ⟨untaken, ignored⟩ := (Context.ignores_cons_iff dashes).1 h
      have step := step_of_not_takes dashes single untaken rest
      cases looks : isOptionLike word with
      | true =>
        have last := run_of_ignores_of_beyond
          { scan with unknown := scan.unknown ++ [word], beyond := true } single rfl ignored
        refine ⟨true, ?_⟩
        rw [run_of_next step, other_of_looks within looks, last, divide_of_looks looks dashes]
        simp [single]
      | false =>
        obtain ⟨beyond, last⟩ := ih { scan with operands := scan.operands ++ [word] } single within
          ignored
        refine ⟨beyond, ?_⟩
        rw [run_of_next step, other_of_plain within looks, last, divide_of_plain looks]
        simp

/-- Of a single word that is taken a shorter one is set aside at most. -/
theorem run_singleton (context : Context) (scan : Scan) (single : scan.repeated = none)
    (beyond : scan.beyond = true) (word : String) :
    (run context scan [word]).2.isSome ∨
      (run context scan [word]).1.operands = scan.operands ∧
        ∃ left : Option String, (run context scan [word]).1.unknown = scan.unknown ++ left.toList ∧
          ∀ other ∈ left, other.length ≤ word.length ∧
            (context.Takes word → other.length < word.length) := by
  -- a group behind one dash loses its first letter, so the induction is on the length
  induction length : word.length using Nat.strongRecOn generalizing scan word with
  | ind n ih =>
    subst length
    by_cases dashes : word = "--"
    · subst dashes
      refine .inr ?_
      rw [run_of_stop (step_dashes scan [])]
      refine ⟨by simp [setAside, beyond], some "--", by simp [setAside, beyond], ?_⟩
      rintro other ⟨⟩
      exact ⟨Nat.le_refl _, fun takes => absurd rfl takes.ne⟩
    by_cases takes : context.Takes word
    · obtain ⟨same, uses⟩ := step_of_takes single takes []
      cases moved : step context scan word [] with
      | next after =>
        rw [moved] at same
        rw [run_of_next moved, run]
        exact .inr ⟨same.operands, none, same.unknown.trans (List.append_nil _).symm, by simp⟩
      | skip after =>
        rw [moved] at same
        rw [run_of_skip moved, List.tail_nil, run]
        exact .inr ⟨same.operands, none, same.unknown.trans (List.append_nil _).symm, by simp⟩
      | regroup after =>
        rw [moved] at same uses
        obtain ⟨single', long⟩ := uses
        have shorter := length_restOfGroup long
        rw [run_of_regroup moved long]
        obtain error | ⟨operands, left, unknown, short⟩ :=
          ih _ shorter after single' (same.beyond.trans beyond) (restOfGroup word) rfl
        · exact .inl error
        refine .inr ⟨operands.trans same.operands, left, unknown.trans ?_, fun other member => ?_⟩
        · exact congrArg (· ++ left.toList) same.unknown
        · have := (short other member).1
          exact ⟨by omega, fun _ => by omega⟩
      | stop after error =>
        rw [moved] at uses
        rw [run_of_stop moved]
        exact .inl uses
    · rw [run_of_next (step_of_not_takes dashes single takes []), other_of_beyond beyond, run]
      refine .inr ⟨rfl, some word, rfl, ?_⟩
      rintro other ⟨⟩
      exact ⟨Nat.le_refl _, fun found => absurd found takes⟩

end KeyClient.CommandLine.Scan
