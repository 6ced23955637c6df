import KeyClient.Proofs.CommandLine.Aside

/-!
# What a scan reads

What a scan reads in a word depends on the option that waits for values and on the words behind it,
not on the values that options have (`Scan.reading`, `Scan.step_eq`).  So the options that occur
among some words, with what is given for each, can be listed without them (`Scan.occurrences`), and
a scan that ends well sets what these occurrences set one after another (`Scan.values_run`).
-/

namespace KeyClient.CommandLine.Scan

/-! ## One word -/

/-- How a scan goes on behind an option: with the next word, with the word after the next, or with
the rest of a group. -/
inductive Pace where
  | next
  | skip
  | regroup

/-- The move of a pace. -/
def Pace.move : Pace → Scan → Move
  | next => .next
  | skip => .skip
  | regroup => .regroup

/-- What is read in a word. -/
inductive Reading where
  /-- The end of the options. -/
  | dashes
  /-- An option that lacks its value. -/
  | lacking (spec : OptionSpec)
  /-- An option, what is given for it, how the scan goes on and the option that waits for more. -/
  | option (spec : OptionSpec) (given : Given) (pace : Pace) (repeated : Option OptionSpec)
  /-- No option. -/
  | other

/-- What is read in a word that is an option as a whole. -/
def readWhole (spec : OptionSpec) (rest : List String) : Reading :=
  let repeated := if spec.isVariadic then some spec else none
  if spec.isRequired then
    match rest with
    | [] => .lacking spec
    | value :: _ => .option spec (.text value) .skip repeated
  else if spec.isOptional then
    match rest with
    | value :: _ =>
      if isOptionLike value then .option spec .omitted .next repeated
      else .option spec (.text value) .skip repeated
    | [] => .option spec .omitted .next repeated
  else .option spec .nothing .next repeated

/-- What is read in a word, by the option that waits for values and the words behind it. -/
def reading (context : Context) (repeated : Option OptionSpec) (arg : String)
    (rest : List String) : Reading :=
  if arg = "--" then .dashes
  else
    match if isOptionLike arg then none else repeated with
    | some spec => .option spec (.text arg) .next (some spec)
    | none =>
      match if isOptionLike arg then context.find? arg else none with
      | some spec => readWhole spec rest
      | none =>
        match group? context arg with
        | some (spec, value, true) => .option spec (.text value) .next none
        | some (spec, _, false) => .option spec .nothing .regroup none
        | none =>
          match assignment? context arg with
          | some (spec, value) => .option spec (.text value) .next none
          | none => .other

/-- The scan when a word is dealt with: no option waits for words that look like options. -/
def settled (scan : Scan) (arg : String) : Scan :=
  { scan with repeated := if isOptionLike arg then none else scan.repeated }

/-- How the scan goes on with what is read in a word. -/
def Reading.move (context : Context) (scan : Scan) (arg : String) (rest : List String) :
    Reading → Move
  | dashes => .stop ((if scan.beyond then scan.setAside [arg] else scan).setAside rest) none
  | lacking spec => .stop (scan.settled arg) (some (.missingArgument spec.flags))
  | option spec given pace repeated =>
    .after (fun after => pace.move { after with repeated := repeated })
      (context.occur spec given (scan.settled arg))
  | other => .next ({ scan with repeated := none }.other arg)

variable {context : Context}

/-- An occurrence leaves the option that waits for values as it is. -/
theorem after_occur {scan : Scan} {spec : OptionSpec} {given : Given} (move : Scan → Move)
    {repeated : Option OptionSpec} (same : scan.repeated = repeated) :
    Move.after (fun after => move { after with repeated := repeated })
      (context.occur spec given scan) = Move.after move (context.occur spec given scan) := by
  subst same
  obtain ⟨values, after⟩ := occur_eq context spec given scan
  cases occurred : context.occur spec given scan with
  | mk last error =>
    rw [occurred] at after
    subst after
    cases error <;> rfl

theorem whole_eq (spec : OptionSpec) (rest : List String) (scan : Scan) (arg : String) :
    whole context spec rest (scan.settled arg) =
      (readWhole spec rest).move context scan arg rest := by
  unfold whole readWhole
  dsimp only
  split
  · cases rest <;> rfl
  · split
    · cases rest with
      | nil => rfl
      | cons value rest =>
        dsimp only
        split <;> rfl
    · rfl

/-- A step does what is read in the word. -/
theorem step_eq (context : Context) (scan : Scan) (arg : String) (rest : List String) :
    step context scan arg rest =
      (reading context scan.repeated arg rest).move context scan arg rest := by
  unfold step reading
  by_cases dashes : arg = "--"
  · rw [if_pos dashes, if_pos dashes]
    rfl
  · rw [if_neg dashes, if_neg dashes]
    cases waiting : (if isOptionLike arg then none else scan.repeated) with
    | some spec =>
      have here : scan.repeated = some spec := by
        split at waiting
        · cases waiting
        · exact waiting
      have same : scan.settled arg = scan := by rw [settled, waiting, ← here]
      dsimp only [Reading.move]
      rw [same]
      exact (after_occur .next here).symm
    | none =>
      have same : { scan with repeated := none } = scan.settled arg := by rw [settled, waiting]
      have none : (scan.settled arg).repeated = none := waiting
      dsimp only
      rw [same]
      cases (if isOptionLike arg then context.find? arg else Option.none) with
      | some spec => exact whole_eq spec rest scan arg
      | none =>
        cases group? context arg with
        | some group =>
          obtain ⟨spec, value, isValue⟩ := group
          cases isValue with
          | true => exact (after_occur .next none).symm
          | false => exact (after_occur .regroup none).symm
        | none =>
          cases assignment? context arg with
          | some assignment => exact (after_occur .next none).symm
          | none =>
            rw [← same]
            rfl

/-! ## All words -/

/-- The options that occur, with what is given for each, from left to right. -/
def occurrences (context : Context) (repeated : Option OptionSpec) :
    List String → List (OptionSpec × Given)
  | [] => []
  | arg :: rest =>
    match reading context repeated arg rest with
    | .dashes | .lacking _ => []
    | .other => occurrences context none rest
    | .option spec given pace repeated =>
      (spec, given) ::
        match pace with
        | .next => occurrences context repeated rest
        | .skip => occurrences context repeated rest.tail
        | .regroup =>
          if _ : 2 < arg.length then occurrences context repeated (restOfGroup arg :: rest) else []
termination_by args => weight args
decreasing_by
  · simp [weight]
  · simp [weight]
  · cases rest <;> simp [weight]; omega
  · have := length_restOfGroup ‹2 < arg.length›
    simp [weight]; omega

theorem storeAll_congr (given : Given) {scan other : Scan} (same : scan.values = other.values)
    (specs : List OptionSpec) :
    (storeAll given scan specs).1.values = (storeAll given other specs).1.values ∧
      (storeAll given scan specs).2 = (storeAll given other specs).2 := by
  induction specs generalizing scan other with
  | nil => exact ⟨same, rfl⟩
  | cons spec rest ih =>
    unfold storeAll store
    rw [same]
    cases spec.receive (other.values.get spec.slot) given with
    | ok v => exact ih rfl
    | error error => exact ⟨same, rfl⟩

/-- What an occurrence does depends on the values alone. -/
theorem occur_congr (spec : OptionSpec) (given : Given) {scan other : Scan}
    (same : scan.values = other.values) :
    (context.occur spec given scan).1.values = (context.occur spec given other).1.values ∧
      (context.occur spec given scan).2 = (context.occur spec given other).2 := by
  unfold Context.occur
  split
  · split
    · exact ⟨same, rfl⟩
    · exact storeAll_congr given same _
  · exact storeAll_congr given same _

/-- The values after an occurrence. -/
def valuesAfter (context : Context) (values : OptionValues) (occurrence : OptionSpec × Given) :
    Except UsageError OptionValues :=
  let (scan, error) := context.occur occurrence.1 occurrence.2 (.start values)
  match error with
  | none => .ok scan.values
  | some error => .error error

theorem valuesAfter_of_occur {spec : OptionSpec} {given : Given} {scan after : Scan}
    (h : context.occur spec given scan = (after, none)) :
    valuesAfter context scan.values (spec, given) = .ok after.values := by
  obtain ⟨values, error⟩ := @occur_congr context spec given (.start scan.values) scan rfl
  rw [h] at values error
  unfold valuesAfter
  dsimp only at error values ⊢
  rw [error, values]

@[simp] theorem values_settled (scan : Scan) (arg : String) :
    (scan.settled arg).values = scan.values := rfl

@[simp] theorem repeated_setAside (scan : Scan) (args : List String) :
    (scan.setAside args).repeated = scan.repeated := by
  unfold setAside
  split <;> rfl

@[simp] theorem values_other (scan : Scan) (arg : String) : (scan.other arg).values = scan.values :=
  values_setAside _ _

/-- A scan that ends well sets what the occurrences set one after another. -/
theorem values_run {repeated : Option OptionSpec} {args : List String} {scan last : Scan}
    (waiting : scan.repeated = repeated) (h : run context scan args = (last, none)) :
    (occurrences context repeated args).foldlM (valuesAfter context) scan.values =
      .ok last.values := by
  induction repeated, args using occurrences.induct context generalizing scan with
  | case1 repeated =>
    rw [run] at h
    cases h
    rw [occurrences]
    rfl
  | case2 repeated arg rest read =>
    have moved := step_eq context scan arg rest
    rw [waiting, read] at moved
    rw [run_of_stop moved] at h
    cases h
    rw [occurrences, read]
    dsimp only
    rw [values_setAside]
    split
    · rw [values_setAside]
      rfl
    · rfl
  | case3 repeated arg rest spec read =>
    have moved := step_eq context scan arg rest
    rw [waiting, read] at moved
    rw [run_of_stop moved] at h
    cases h
  | case4 repeated arg rest read ih =>
    have moved := step_eq context scan arg rest
    rw [waiting, read] at moved
    rw [run_of_next moved] at h
    have last := ih (repeated_setAside _ _) h
    rw [values_other] at last
    rw [occurrences, read]
    exact last
  | case5 repeated arg rest spec given pace repeated' read next skip regroup =>
    have moved := step_eq context scan arg rest
    rw [waiting, read, Reading.move] at moved
    rw [occurrences, read]
    cases occurred : context.occur spec given (scan.settled arg) with
    | mk after error =>
      rw [occurred] at moved
      cases error with
      | some error =>
        rw [run_of_stop moved] at h
        cases h
      | none =>
        let kept : Scan := { after with repeated := repeated' }
        have first := valuesAfter_of_occur occurred
        rw [values_settled] at first
        dsimp only
        rw [List.foldlM_cons, first]
        cases pace with
        | next =>
          rw [run_of_next moved] at h
          exact @next kept rfl h
        | skip =>
          rw [run_of_skip moved] at h
          exact @skip kept rfl h
        | regroup =>
          by_cases long : 2 < arg.length
          · rw [run_of_regroup moved long] at h
            dsimp only
            rw [dif_pos long]
            exact @regroup long kept rfl h
          · rw [run_of_regroup_of_short moved long] at h
            cases h
            dsimp only
            rw [dif_neg long]
            rfl

/-! ## What is offered to a command -/

/-- The option is one of the command, and if it must have a value it has one. -/
structure IsOffered (command : Command) (spec : OptionSpec) (given : Given) : Prop where
  mem : spec ∈ command.options
  text : spec.isRequired = true → ∃ s, given = .text s

section

variable {command : Command} {repeated : Option OptionSpec}

/-- A group opens with an option; what follows is its value if it takes one. -/
theorem mem_of_group? {word value : String} {spec : OptionSpec} {isValue : Bool}
    (h : group? (.ofCommand command) word = some (spec, value, isValue)) :
    spec ∈ command.options ∧ isValue = (spec.isRequired || spec.isOptional) := by
  unfold group? at h
  split at h
  · split at h
    · cases h
    · obtain ⟨found, here, parts⟩ := Option.map_eq_some_iff.1 h
      cases parts
      exact ⟨mem_of_find? here, rfl⟩
  · cases h

theorem mem_of_assignment? {word value : String} {spec : OptionSpec}
    (h : assignment? (.ofCommand command) word = some (spec, value)) : spec ∈ command.options := by
  unfold assignment? at h
  split at h
  · split at h
    · cases h
    · split at h
      · obtain ⟨found, here, parts⟩ := Option.map_eq_some_iff.1 h
        cases parts
        exact mem_of_find? (Option.filter_eq_some_iff.1 here).1
      · cases h
  · cases h

theorem isOffered_of_readWhole {spec spec' : OptionSpec} {given : Given} {pace : Pace}
    {rest : List String} (mem : spec ∈ command.options)
    (h : readWhole spec rest = .option spec' given pace repeated) :
    IsOffered command spec' given ∧ ∀ other ∈ repeated, other ∈ command.options := by
  have waits : ∀ other ∈ (if spec.isVariadic then some spec else none),
      other ∈ command.options := by
    intro other here
    split at here
    · cases here
      exact mem
    · cases here
  unfold readWhole at h
  dsimp only at h
  split at h
  · cases rest with
    | nil => cases h
    | cons value rest =>
      cases h
      exact ⟨⟨mem, fun _ => ⟨value, rfl⟩⟩, waits⟩
  · next optional =>
    have free : ∀ given : Given, IsOffered command spec given :=
      fun _ => ⟨mem, fun required => absurd required optional⟩
    split at h
    · cases rest with
      | nil =>
        cases h
        exact ⟨free _, waits⟩
      | cons value rest =>
        dsimp only at h
        split at h <;> cases h <;> exact ⟨free _, waits⟩
    · cases h
      exact ⟨free _, waits⟩

theorem isOffered_of_reading {spec : OptionSpec} {given : Given} {pace : Pace}
    {repeated' : Option OptionSpec} {arg : String} {rest : List String}
    (known : ∀ other ∈ repeated, other ∈ command.options)
    (h : reading (.ofCommand command) repeated arg rest = .option spec given pace repeated') :
    IsOffered command spec given ∧ ∀ other ∈ repeated', other ∈ command.options := by
  unfold reading at h
  split at h
  · cases h
  · split at h
    · next waiting =>
      cases h
      have mem : spec ∈ command.options := by
        split at waiting
        · cases waiting
        · exact known spec waiting
      exact ⟨⟨mem, fun _ => ⟨arg, rfl⟩⟩, fun other here => by cases here; exact mem⟩
    · split at h
      · next found =>
        split at found
        · exact isOffered_of_readWhole (mem_of_find? found) h
        · cases found
      · split at h
        · next value grouped =>
          cases h
          exact ⟨⟨(mem_of_group? grouped).1, fun _ => ⟨value, rfl⟩⟩, nofun⟩
        · next grouped =>
          cases h
          obtain ⟨mem, free⟩ := mem_of_group? grouped
          refine ⟨⟨mem, fun required => ?_⟩, nofun⟩
          rw [required] at free
          cases free
        · split at h
          · next value assigned =>
            cases h
            exact ⟨⟨mem_of_assignment? assigned, fun _ => ⟨value, rfl⟩⟩, nofun⟩
          · cases h

/-- What occurs is offered. -/
theorem isOffered_of_mem {args : List String} (known : ∀ other ∈ repeated, other ∈ command.options)
    {spec : OptionSpec} {given : Given}
    (mem : (spec, given) ∈ occurrences (.ofCommand command) repeated args) :
    IsOffered command spec given := by
  induction repeated, args using occurrences.induct (.ofCommand command) with
  | case1 repeated =>
    rw [occurrences] at mem
    cases mem
  | case2 repeated arg rest read =>
    rw [occurrences, read] at mem
    cases mem
  | case3 repeated arg rest spec' read =>
    rw [occurrences, read] at mem
    cases mem
  | case4 repeated arg rest read ih =>
    rw [occurrences, read] at mem
    exact ih nofun mem
  | case5 repeated arg rest spec' given' pace repeated' read next skip regroup =>
    obtain ⟨offered, known'⟩ := isOffered_of_reading known read
    rw [occurrences, read] at mem
    rcases List.mem_cons.1 mem with same | later
    · cases same
      exact offered
    · cases pace with
      | next => exact next known' later
      | skip => exact skip known' later
      | regroup =>
        dsimp only at later
        split at later
        · next long => exact regroup long known' later
        · cases later

end

end KeyClient.CommandLine.Scan
