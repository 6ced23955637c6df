import KeyClient.CommandLine.Scan

/-!
# What a scan sets

A scan changes values by setting slots of options of its command and in no other way, so whatever
setting those keeps is kept by one step (`Scan.Keeps.step`) and by the whole scan
(`Scan.Keeps.run`), even if it ends in an error.
-/

namespace KeyClient.CommandLine.Scan

/-- What is known when the scan goes on. -/
def Move.scan : Move → Scan
  | next scan | skip scan | regroup scan | stop scan _ => scan

theorem values_after {move : Scan → Move} (plain : ∀ scan, (move scan).scan.values = scan.values)
    (outcome : Outcome) : (Move.after move outcome).scan.values = outcome.1.values := by
  obtain ⟨scan, error⟩ := outcome
  cases error with
  | none => exact plain scan
  | some error => rfl

/-- Setting an option of the command keeps the property. -/
def Keeps (context : Context) (P : OptionValues → Prop) : Prop :=
  ∀ spec ∈ context.command.options, ∀ values v, P values → P (values.set spec.slot v none)

variable {context : Context} {P : OptionValues → Prop}

theorem Keeps.store (keeps : Keeps context P) {spec : OptionSpec}
    (mem : spec ∈ context.command.options) (given : Given) {scan : Scan} (h : P scan.values) :
    P (store spec given scan).1.values := by
  unfold Scan.store
  split
  · exact keeps spec mem _ _ h
  · exact h

theorem Keeps.storeAll (keeps : Keeps context P) {specs : List OptionSpec}
    (mem : ∀ spec ∈ specs, spec ∈ context.command.options) (given : Given) {scan : Scan}
    (h : P scan.values) : P (storeAll given scan specs).1.values := by
  induction specs generalizing scan with
  | nil => exact h
  | cons spec rest ih =>
    have first := keeps.store (mem spec List.mem_cons_self) given h
    unfold Scan.storeAll
    split
    · next next stored =>
      rw [stored] at first
      exact ih (fun other member => mem other (List.mem_cons_of_mem _ member)) first
    · next next error stored =>
      rw [stored] at first
      exact first

theorem Keeps.occur (keeps : Keeps context P) (spec : OptionSpec) (given : Given) {scan : Scan}
    (h : P scan.values) : P (context.occur spec given scan).1.values := by
  have all : P (Scan.storeAll given scan
      (context.command.options.filter fun other => other.name == spec.name)).1.values :=
    keeps.storeAll (fun _ member => (List.mem_filter.1 member).1) given h
  unfold Context.occur
  split
  · split
    · exact h
    · exact all
  · exact all

theorem Keeps.whole (keeps : Keeps context P) (spec : OptionSpec) (rest : List String)
    {scan : Scan} (h : P scan.values) : P (whole context spec rest scan).scan.values := by
  have after : ∀ {move : Scan → Move} (given : Given),
      (∀ scan, (move scan).scan.values = scan.values) →
      P (Move.after move (context.occur spec given scan)).scan.values := by
    intro move given plain
    rw [values_after plain]
    exact keeps.occur spec given h
  unfold Scan.whole
  lift_lets
  intro done
  split
  · split
    · exact h
    · exact after _ fun _ => rfl
  · split
    · split
      · split
        · exact after _ fun _ => rfl
        · exact after _ fun _ => rfl
      · exact after _ fun _ => rfl
    · exact after _ fun _ => rfl

@[simp] theorem values_setAside (scan : Scan) (args : List String) :
    (scan.setAside args).values = scan.values := by
  unfold setAside
  split <;> rfl

/-- What setting options keeps, one step keeps. -/
theorem Keeps.step (keeps : Keeps context P) {scan : Scan} (arg : String) (rest : List String)
    (h : P scan.values) : P (step context scan arg rest).scan.values := by
  have after : ∀ {move : Scan → Move} (spec : OptionSpec) (given : Given) {scan : Scan},
      P scan.values → (∀ scan, (move scan).scan.values = scan.values) →
      P (Move.after move (context.occur spec given scan)).scan.values := by
    intro move spec given scan h plain
    rw [values_after plain]
    exact keeps.occur spec given h
  unfold Scan.step
  split
  · -- what stands behind `--` is set aside
    rw [Move.scan, values_setAside]
    split
    · rw [values_setAside]
      exact h
    · exact h
  · split
    · exact after _ _ h fun _ => rfl
    · split
      · exact keeps.whole _ _ h
      · split
        · exact after _ _ h fun _ => rfl
        · exact after _ _ h fun _ => rfl
        · split
          · exact after _ _ h fun _ => rfl
          · rw [Move.scan, other, values_setAside]
            exact h

/-! ## Whole scans -/

theorem run_of_next {scan after : Scan} {arg : String} {rest : List String}
    (h : Scan.step context scan arg rest = .next after) :
    run context scan (arg :: rest) = run context after rest := by
  rw [run, h]

theorem run_of_skip {scan after : Scan} {arg : String} {rest : List String}
    (h : Scan.step context scan arg rest = .skip after) :
    run context scan (arg :: rest) = run context after rest.tail := by
  rw [run, h]

theorem run_of_regroup {scan after : Scan} {arg : String} {rest : List String}
    (h : Scan.step context scan arg rest = .regroup after) (long : 2 < arg.length) :
    run context scan (arg :: rest) = run context after (restOfGroup arg :: rest) := by
  rw [run, h]
  exact dif_pos long

theorem run_of_regroup_of_short {scan after : Scan} {arg : String} {rest : List String}
    (h : Scan.step context scan arg rest = .regroup after) (short : ¬ 2 < arg.length) :
    run context scan (arg :: rest) = (after, none) := by
  rw [run, h]
  exact dif_neg short

theorem run_of_stop {scan after : Scan} {arg : String} {rest : List String}
    {error : Option UsageError} (h : Scan.step context scan arg rest = .stop after error) :
    run context scan (arg :: rest) = (after, error) := by
  rw [run, h]

/-- What every step keeps, a whole scan keeps. -/
theorem run_kept {P : Scan → Prop}
    (kept : ∀ scan arg rest, P scan → P (Scan.step context scan arg rest).scan)
    (args : List String) {scan : Scan} (h : P scan) : P (run context scan args).1 := by
  have moves : ∀ {scan : Scan} {arg : String} {rest : List String} {move : Move},
      Scan.step context scan arg rest = move → P scan → P move.scan := by
    rintro scan arg rest _ rfl h
    exact kept scan arg rest h
  induction scan, args using Scan.run.induct context with
  | case1 scan =>
    rw [Scan.run]
    exact h
  | case2 scan arg rest after moved ih =>
    rw [run_of_next moved]
    exact ih (moves moved h)
  | case3 scan arg rest after moved ih =>
    rw [run_of_skip moved]
    exact ih (moves moved h)
  | case4 scan arg rest after moved long ih =>
    rw [run_of_regroup moved long]
    exact ih (moves moved h)
  | case5 scan arg rest after moved short =>
    rw [run_of_regroup_of_short moved short]
    exact moves moved h
  | case6 scan arg rest after error moved =>
    rw [run_of_stop moved]
    exact moves moved h

/-- What setting options keeps, a whole scan keeps. -/
theorem Keeps.run (keeps : Keeps context P) (args : List String) {scan : Scan}
    (h : P scan.values) : P (run context scan args).1.values :=
  run_kept (P := fun scan => P scan.values) (fun _ arg rest => keeps.step arg rest) args h

end KeyClient.CommandLine.Scan
