import KeyClient.Proofs.CommandLine.Reading
import KeyClient.Proofs.CommandLine.Routed

/-!
# Scans of the same words

Two scans that differ in the values of options alone read the same words in the same way.  If the
options cannot tell the values apart (`Scan.Respects`), they set aside the same words, set the same
values and end in the same way (`Scan.run_alike`).  So the root of a suite routes a command line by
its words alone (`Suite.route_alike`).
-/

namespace KeyClient.CommandLine

namespace Scan

/-- The options cannot tell the values apart: each makes the same of both, and if it is set to the
same value in both, they still cannot be told apart. -/
structure Respects (context : Context) (R : OptionValues → OptionValues → Prop) : Prop where
  receive : ∀ spec ∈ context.command.options, ∀ given {values others}, R values others →
    spec.receive (values.get spec.slot) given = spec.receive (others.get spec.slot) given
  set : ∀ spec ∈ context.command.options, ∀ v {values others}, R values others →
    R (values.set spec.slot v none) (others.set spec.slot v none)

/-- The scans differ in values that cannot be told apart, and in nothing else. -/
structure Alike (R : OptionValues → OptionValues → Prop) (scan twin : Scan) : Prop where
  words : scan.SameWords twin
  repeated : scan.repeated = twin.repeated
  values : R scan.values twin.values

/-- The scans are alike and end in the same way. -/
structure Outcome.Alike (R : OptionValues → OptionValues → Prop) (outcome twin : Outcome) :
    Prop where
  scan : outcome.1.Alike R twin.1
  error : outcome.2 = twin.2

/-- The scans are alike and go on in the same way. -/
inductive Move.Alike (R : OptionValues → OptionValues → Prop) : Move → Move → Prop
  | next {scan twin : Scan} (alike : scan.Alike R twin) : Alike R (.next scan) (.next twin)
  | skip {scan twin : Scan} (alike : scan.Alike R twin) : Alike R (.skip scan) (.skip twin)
  | regroup {scan twin : Scan} (alike : scan.Alike R twin) :
      Alike R (.regroup scan) (.regroup twin)
  | stop {scan twin : Scan} (alike : scan.Alike R twin) (error : Option UsageError) :
      Alike R (.stop scan error) (.stop twin error)

variable {context : Context} {R : OptionValues → OptionValues → Prop} {scan twin : Scan}

theorem Alike.setAside (h : scan.Alike R twin) (args : List String) :
    (scan.setAside args).Alike R (twin.setAside args) := by
  obtain ⟨values, operands, unknown, beyond, repeated⟩ := scan
  obtain ⟨values', operands', unknown', beyond', repeated'⟩ := twin
  obtain ⟨⟨rfl, rfl, rfl⟩, rfl, same⟩ := h
  unfold Scan.setAside
  dsimp only
  split <;> exact ⟨⟨rfl, rfl, rfl⟩, rfl, same⟩

theorem Alike.settled (h : scan.Alike R twin) (arg : String) :
    (scan.settled arg).Alike R (twin.settled arg) := by
  obtain ⟨values, operands, unknown, beyond, repeated⟩ := scan
  obtain ⟨values', operands', unknown', beyond', repeated'⟩ := twin
  obtain ⟨⟨rfl, rfl, rfl⟩, rfl, same⟩ := h
  exact ⟨⟨rfl, rfl, rfl⟩, rfl, same⟩

theorem Alike.waiting (h : scan.Alike R twin) (repeated : Option OptionSpec) :
    ({ scan with repeated := repeated } : Scan).Alike R { twin with repeated := repeated } :=
  ⟨⟨h.words.operands, h.words.unknown, h.words.beyond⟩, rfl, h.values⟩

theorem Alike.other (h : scan.Alike R twin) (arg : String) :
    (scan.other arg).Alike R (twin.other arg) := by
  obtain ⟨values, operands, unknown, beyond, repeated⟩ := scan
  obtain ⟨values', operands', unknown', beyond', repeated'⟩ := twin
  obtain ⟨⟨rfl, rfl, rfl⟩, rfl, same⟩ := h
  have alike : Alike R ⟨values, operands, unknown, beyond || isOptionLike arg, repeated⟩
      ⟨values', operands, unknown, beyond || isOptionLike arg, repeated⟩ :=
    ⟨⟨rfl, rfl, rfl⟩, rfl, same⟩
  exact alike.setAside [arg]

/-! ## One word -/

theorem Respects.storeAll (respects : Respects context R) (h : scan.Alike R twin)
    (specs : List OptionSpec) (mem : ∀ spec ∈ specs, spec ∈ context.command.options)
    (given : Given) :
    Outcome.Alike R (storeAll given scan specs) (storeAll given twin specs) := by
  induction specs generalizing scan twin with
  | nil => exact ⟨h, rfl⟩
  | cons spec rest ih =>
    have own := mem spec List.mem_cons_self
    have same := respects.receive spec own given h.values
    unfold Scan.storeAll store
    rw [same]
    cases spec.receive (twin.values.get spec.slot) given with
    | ok v =>
      have set := respects.set spec own v h.values
      exact ih ⟨⟨h.words.operands, h.words.unknown, h.words.beyond⟩, h.repeated, set⟩
        fun later member => mem later (List.mem_cons_of_mem _ member)
    | error error => exact ⟨h, rfl⟩

theorem Respects.occur (respects : Respects context R) (h : scan.Alike R twin)
    (spec : OptionSpec) (given : Given) :
    Outcome.Alike R (context.occur spec given scan) (context.occur spec given twin) := by
  have all := respects.storeAll h
    (context.command.options.filter fun other => other.name == spec.name)
    (fun _ member => (List.mem_filter.1 member).1) given
  unfold Context.occur
  split
  · split
    · exact ⟨h, rfl⟩
    · exact all
  · exact all

/-- An option that occurs in both scans lets both go on. -/
theorem Outcome.Alike.after {outcome outcome' : Outcome} (h : Outcome.Alike R outcome outcome')
    (pace : Pace) (repeated : Option OptionSpec) :
    Move.Alike R (.after (fun scan => pace.move { scan with repeated := repeated }) outcome)
      (.after (fun scan => pace.move { scan with repeated := repeated }) outcome') := by
  obtain ⟨scan, error⟩ := outcome
  obtain ⟨twin, error'⟩ := outcome'
  obtain ⟨alike, same⟩ := h
  cases same
  cases error with
  | some error => exact .stop alike _
  | none =>
    cases pace with
    | next => exact .next (alike.waiting repeated)
    | skip => exact .skip (alike.waiting repeated)
    | regroup => exact .regroup (alike.waiting repeated)

/-- One word is dealt with in the same way. -/
theorem Respects.step (respects : Respects context R) (h : scan.Alike R twin) (arg : String)
    (rest : List String) :
    Move.Alike R (Scan.step context scan arg rest) (Scan.step context twin arg rest) := by
  rw [step_eq, step_eq, h.repeated]
  cases reading context twin.repeated arg rest with
  | dashes =>
    refine .stop (Alike.setAside ?_ rest) none
    rw [h.words.beyond]
    split
    · exact h.setAside [arg]
    · exact h
  | lacking spec => exact .stop (h.settled arg) _
  | other => exact .next ((h.waiting none).other arg)
  | option spec given pace repeated => exact (respects.occur (h.settled arg) spec given).after _ _

/-! ## All words -/

/-- **Scans of the same words.**  Options that cannot tell values apart do the same with both. -/
theorem run_alike (respects : Respects context R) (args : List String) (h : scan.Alike R twin) :
    Outcome.Alike R (run context scan args) (run context twin args) := by
  have steps : ∀ {scan twin : Scan} {arg : String} {rest : List String} {move : Move},
      scan.Alike R twin → Scan.step context scan arg rest = move →
        ∃ move', Scan.step context twin arg rest = move' ∧ Move.Alike R move move' := by
    rintro scan twin arg rest _ h rfl
    exact ⟨_, rfl, respects.step h arg rest⟩
  induction scan, args using Scan.run.induct context generalizing twin with
  | case1 scan =>
    rw [run, run]
    exact ⟨h, rfl⟩
  | case2 scan arg rest after moved ih =>
    obtain ⟨_, moved', same⟩ := steps h moved
    cases same with
    | next alike =>
      rw [run_of_next moved, run_of_next moved']
      exact ih alike
  | case3 scan arg rest after moved ih =>
    obtain ⟨_, moved', same⟩ := steps h moved
    cases same with
    | skip alike =>
      rw [run_of_skip moved, run_of_skip moved']
      exact ih alike
  | case4 scan arg rest after moved long ih =>
    obtain ⟨_, moved', same⟩ := steps h moved
    cases same with
    | regroup alike =>
      rw [run_of_regroup moved long, run_of_regroup moved' long]
      exact ih alike
  | case5 scan arg rest after moved short =>
    obtain ⟨_, moved', same⟩ := steps h moved
    cases same with
    | regroup alike =>
      rw [run_of_regroup_of_short moved short, run_of_regroup_of_short moved' short]
      exact ⟨alike, rfl⟩
  | case6 scan arg rest after error moved =>
    obtain ⟨_, moved', same⟩ := steps h moved
    cases same with
    | stop alike =>
      rw [run_of_stop moved, run_of_stop moved']
      exact ⟨alike, rfl⟩

end Scan

/-- Values that the options of the root cannot tell apart do not change where words go. -/
theorem Suite.route_alike {suite : Suite} {R : OptionValues → OptionValues → Prop}
    (respects : Scan.Respects suite.context R) {values others : OptionValues} (h : R values others)
    (args : List String) :
    (suite.route values args).2 = (suite.route others args).2 ∧
      R (suite.route values args).1 (suite.route others args).1 := by
  have start : (Scan.start values).Alike R (.start others) := ⟨⟨rfl, rfl, rfl⟩, rfl, h⟩
  obtain ⟨⟨words, -, same⟩, ends⟩ := Scan.run_alike respects args start
  unfold route
  dsimp only [context] at words same ends ⊢
  rw [words.operands, words.unknown, ends]
  exact ⟨rfl, same⟩

end KeyClient.CommandLine
