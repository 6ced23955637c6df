import KeyClient.Console
import Mathlib.Data.Int.Order.Basic
import Mathlib.Data.List.Basic

/-!
# Filtering what is logged

A console shows the entries that are severe enough for its threshold.  Since numbers are in order
(`Number.le_trans`), what it shows at a higher level is exactly what it shows at a lower one, without
the less severe entries (`Console.blocks_filter`).  Each entry is judged by the threshold that was set
last before it (`Console.threshold_run_map_event`), and nothing of this is seen on the output.
-/

namespace KeyClient

namespace Number

/-! ## The order of numbers -/

/-- When one number is at most another one: neither is not-a-number, and it is the least of all, the
other one is the greatest, or their quotients compare. -/
theorem le_iff {a b : Number} : a.le b = true ↔ a ≠ nan ∧ b ≠ nan ∧
    (a = infinity true ∨ b = infinity false ∨ ∃ p, a.quotient? = some p ∧ ∃ q,
      b.quotient? = some q ∧ p.1 * (Nat.pow 2 q.2 : Nat) ≤ q.1 * (Nat.pow 2 p.2 : Nat)) := by
  rcases a with _ | (_ | _) | _ | _ | _ <;> rcases b with _ | (_ | _) | _ | _ | _ <;>
    simp [le, quotient?]

theorem quotients_trans {m n k : Int} {i j l : Nat}
    (mn : m * (Nat.pow 2 j : Nat) ≤ n * (Nat.pow 2 i : Nat))
    (nk : n * (Nat.pow 2 l : Nat) ≤ k * (Nat.pow 2 j : Nat)) :
    m * (Nat.pow 2 l : Nat) ≤ k * (Nat.pow 2 i : Nat) := by
  have positive : ∀ e : Nat, (0 : Int) < (Nat.pow 2 e : Nat) := fun e =>
    Int.natCast_pos.2 (Nat.pow_pos Nat.two_pos)
  refine Int.le_of_mul_le_mul_right ?_ (positive j)
  calc m * (Nat.pow 2 l : Nat) * (Nat.pow 2 j : Nat)
      = m * (Nat.pow 2 j : Nat) * (Nat.pow 2 l : Nat) := Int.mul_right_comm ..
    _ ≤ n * (Nat.pow 2 i : Nat) * (Nat.pow 2 l : Nat) :=
      Int.mul_le_mul_of_nonneg_right mn (Int.le_of_lt (positive l))
    _ = n * (Nat.pow 2 l : Nat) * (Nat.pow 2 i : Nat) := Int.mul_right_comm ..
    _ ≤ k * (Nat.pow 2 j : Nat) * (Nat.pow 2 i : Nat) :=
      Int.mul_le_mul_of_nonneg_right nk (Int.le_of_lt (positive i))
    _ = k * (Nat.pow 2 i : Nat) * (Nat.pow 2 j : Nat) := Int.mul_right_comm ..

theorem le_trans {a b c : Number} (ab : a.le b = true) (bc : b.le c = true) : a.le c = true := by
  obtain ⟨ha, -, ab⟩ := le_iff.1 ab
  obtain ⟨-, hc, bc⟩ := le_iff.1 bc
  refine le_iff.2 ⟨ha, hc, ?_⟩
  rcases ab with least | rfl | ⟨p, qa, q, qb, pq⟩
  · exact .inl least
  · rcases bc with differs | greatest | ⟨q, qb, -⟩
    · cases differs
    · exact .inr (.inl greatest)
    · cases qb
  · rcases bc with rfl | greatest | ⟨q', qb', r, qc, qr⟩
    · cases qb
    · exact .inr (.inl greatest)
    · obtain rfl := Option.some.inj (qb.symm.trans qb')
      exact .inr (.inr ⟨p, qa, r, qc, quotients_trans pq qr⟩)

end Number

/-! ## Calls -/

/-- A call of the logger: something is logged, or another threshold is set. -/
inductive Log.Call where
  | entry (entry : Log.Entry)
  | setThreshold (threshold : Threshold)
deriving Repr

namespace Log.Call

/-- What a program does by a call. -/
def event : Call → Event
  | entry e => .log e
  | setThreshold threshold => .setThreshold threshold

/-- The threshold that a call sets, if it sets one. -/
def threshold? : Call → Option Threshold
  | entry _ => none
  | setThreshold threshold => some threshold

/-- The threshold that was set last, or else the one before all calls. -/
def latest (threshold : Threshold) (calls : List Call) : Threshold :=
  (calls.filterMap threshold?).getLast?.getD threshold

theorem latest_cons (threshold : Threshold) (call : Call) (rest : List Call) :
    latest threshold (call :: rest) = latest (call.threshold?.getD threshold) rest := by
  cases call with
  | entry e => rfl
  | setThreshold other =>
    have first : (setThreshold other :: rest).filterMap threshold? =
        other :: rest.filterMap threshold? := rfl
    rw [latest, first, List.getLast?_cons]
    rfl

end Log.Call

namespace Console

open Log

/-- The console with another level. -/
def atLevel (console : Console) (level : Number) : Console := { console with threshold := some level }

/-- What is added to the error output when something is logged. -/
def added (mode : ConsoleMode) (console : Console) (entry : Entry) : String :=
  String.ofList ((console.step mode (.log entry)).error.toList.drop console.error.toList.length)

/-- The blocks on the error output when entries are logged one after another: of each entry for which
something is added, what is added. -/
def blocks (mode : ConsoleMode) : Console → List Entry → List (Entry × String)
  | _, [] => []
  | console, entry :: rest =>
    (if console.added mode entry = "" then [] else [(entry, console.added mode entry)]) ++
      blocks mode (console.step mode (.log entry)) rest

/-! ## One entry -/

theorem block_ne_empty {colors : Bool} {entry : Entry} {block : String}
    (put : entry.block? colors = some block) : block ≠ "" := by
  intro empty
  have chars := congrArg String.toList empty
  cases entry with
  | message kind text values =>
    obtain ⟨front, -, rfl⟩ := Option.map_eq_some_iff.1 put
    simp at chars
  | header title =>
    obtain rfl := Option.some.inj put
    simp at chars

/-- An entry is added as its block if the threshold admits it. -/
theorem added_eq (mode : ConsoleMode) (console : Console) (entry : Entry) :
    console.added mode entry =
      if console.threshold.admits entry.severity then entry.block mode.colors else "" := by
  rw [added, step_log, String.toList_append, List.drop_left, String.ofList_toList]

theorem threshold_step_log (mode : ConsoleMode) (console : Console) (entry : Entry) :
    (console.step mode (.log entry)).threshold = console.threshold := by
  rw [step_log]

/-! ## Many entries -/

/-- The block of an entry, if the threshold admits it and it can be put together. -/
def admitted? (colors : Bool) (threshold : Threshold) (entry : Entry) : Option (Entry × String) :=
  if threshold.admits entry.severity then (entry.block? colors).map (entry, ·) else none

/-- The blocks are those of the entries that the threshold admits. -/
theorem blocks_eq (mode : ConsoleMode) (console : Console) (entries : List Entry) :
    blocks mode console entries = entries.filterMap (admitted? mode.colors console.threshold) := by
  induction entries generalizing console with
  | nil => rfl
  | cons entry rest ih =>
    rw [blocks, ih, threshold_step_log, added_eq, List.filterMap_cons, admitted?]
    cases console.threshold.admits entry.severity with
    | false => rw [if_neg Bool.false_ne_true, if_neg Bool.false_ne_true, if_pos rfl, List.nil_append]
    | true =>
      rw [if_pos rfl, if_pos rfl, Entry.block]
      cases put : entry.block? mode.colors with
      | none => rfl
      | some block =>
        rw [Option.getD_some, if_neg (block_ne_empty put), List.singleton_append]
        rfl

/-- The error output grows by the blocks, one after another. -/
theorem error_run_map_log (mode : ConsoleMode) (console : Console) (entries : List Entry) :
    (console.run mode (entries.map .log)).error =
      console.error ++ String.join ((blocks mode console entries).map Prod.snd) := by
  induction entries generalizing console with
  | nil => simp [run, blocks]
  | cons entry rest ih =>
    have grown : (console.step mode (.log entry)).error =
        console.error ++ console.added mode entry := by
      rw [added_eq, step_log]
    refine (ih (console.step mode (.log entry))).trans ?_
    rw [grown, blocks]
    split
    · next none => rw [none, String.append_empty, List.nil_append]
    · rw [List.singleton_append, List.map_cons, String.join_cons, String.append_assoc]

/-! ## Calls in turns -/

theorem output_step_event (mode : ConsoleMode) (console : Console) (call : Call) :
    (console.step mode call.event).output = console.output := by
  cases call with
  | entry e => rw [Call.event, step_log]
  | setThreshold threshold => rfl

theorem threshold_step_event (mode : ConsoleMode) (console : Console) (call : Call) :
    (console.step mode call.event).threshold = call.threshold?.getD console.threshold := by
  cases call with
  | entry e => exact threshold_step_log mode console e
  | setThreshold threshold => rfl

theorem output_run_map_event (mode : ConsoleMode) (console : Console) (calls : List Call) :
    (console.run mode (calls.map Call.event)).output = console.output := by
  induction calls generalizing console with
  | nil => rfl
  | cons call rest ih =>
    exact (ih (console.step mode call.event)).trans (output_step_event mode console call)

/-- After some calls the threshold is the one that was set last. -/
theorem threshold_run_map_event (mode : ConsoleMode) (console : Console) (calls : List Call) :
    (console.run mode (calls.map Call.event)).threshold = Call.latest console.threshold calls := by
  induction calls generalizing console with
  | nil => rfl
  | cons call rest ih =>
    refine (ih (console.step mode call.event)).trans ?_
    rw [threshold_step_event, Call.latest_cons]

/-! ## Filtering -/

/-- What the higher level admits, the lower one admits. -/
theorem admits_of_le {low high : Number} (h : low.le high = true) {severity : Nat}
    (admitted : Threshold.admits (some high) severity = true) :
    Threshold.admits (some low) severity = true :=
  Number.le_trans h admitted

theorem blocks_filter {low high : Number} (h : low.le high = true) (mode : ConsoleMode)
    (console : Console) (entries : List Entry) :
    blocks mode (console.atLevel high) entries =
      (blocks mode (console.atLevel low) entries).filter fun block =>
        high.le (.integer block.1.severity) := by
  rw [blocks_eq, blocks_eq, List.filter_filterMap]
  refine List.filterMap_congr fun entry _ => ?_
  show admitted? mode.colors (some high) entry =
    (admitted? mode.colors (some low) entry).filter fun block =>
      Threshold.admits (some high) block.1.severity
  rw [admitted?, admitted?]
  cases admitted : Threshold.admits (some high) entry.severity with
  | true =>
    rw [admits_of_le h admitted, if_pos rfl]
    cases entry.block? mode.colors with
    | none => rfl
    | some block => exact (if_pos admitted).symm
  | false =>
    rw [if_neg Bool.false_ne_true]
    split
    · cases entry.block? mode.colors with
      | none => rfl
      | some block => exact (if_neg (Bool.eq_false_iff.1 admitted)).symm
    · rfl

/-- **Filtering by level.**  Of the same entries a console shows at a higher level exactly the blocks
that it shows at a lower level for those that are severe enough, in their order; these blocks are all
that the error output grows by, and neither the output nor the threshold changes.  If thresholds are
set in between, each entry is judged by the one that was set last. -/
theorem filters_by_level (mode : ConsoleMode) (console : Console) :
    (∀ low high : Number, low.le high = true → ∀ entries,
      blocks mode (console.atLevel high) entries =
        (blocks mode (console.atLevel low) entries).filter fun block =>
          high.le (.integer block.1.severity)) ∧
    (∀ entries : List Entry,
      let after := console.run mode (entries.map .log)
      after.error = console.error ++ String.join ((blocks mode console entries).map Prod.snd) ∧
        after.output = console.output ∧ after.threshold = console.threshold) ∧
    ∀ calls : List Call,
      let after := console.run mode (calls.map Call.event)
      after.output = console.output ∧ after.threshold = Call.latest console.threshold calls ∧
        ∀ entry, (after.step mode (.log entry)).error =
          after.error ++ if (Call.latest console.threshold calls).admits entry.severity then
            entry.block mode.colors else "" := by
  refine ⟨fun low high h entries => blocks_filter h mode console entries, fun entries => ?_,
    fun calls => ⟨output_run_map_event mode console calls, threshold_run_map_event mode console calls,
      fun entry => ?_⟩⟩
  · have asCalls : entries.map Event.log = (entries.map Call.entry).map Call.event := by
      rw [List.map_map]
      rfl
    have none : (entries.map Call.entry).filterMap Call.threshold? = [] :=
      List.filterMap_eq_nil_iff.2 fun call mem => by
        obtain ⟨entry, -, rfl⟩ := List.mem_map.1 mem
        rfl
    refine ⟨error_run_map_log mode console entries, ?_, ?_⟩
    · rw [asCalls, output_run_map_event]
    · rw [asCalls, threshold_run_map_event, Call.latest, none]
      rfl
  · rw [step_log, threshold_run_map_event]

/-- From a level between two severities on, of three entries the warning is left. -/
theorem filters_by_level_warning :
    let mode : ConsoleMode := ⟨false, true⟩
    let console := blank none
    let entries : List Entry :=
      [.header "Setup", .message .warn "slow" [], .message .debug "state" [.null]]
    let half : Number := .fraction 3 0 rfl
    Number.le (.integer 1) half = true ∧
      blocks mode (console.atLevel half) entries =
        (blocks mode (console.atLevel (.integer 1)) entries).filter (fun block =>
          half.le (.integer block.1.severity)) ∧
      (blocks mode (console.atLevel (.integer 1)) entries).map Prod.snd =
        ["\nSetup\n─────────\n", "[WARN]  slow\n"] ∧
      (blocks mode (console.atLevel half) entries).map Prod.snd = ["[WARN]  slow\n"] := by
  intro mode console entries half
  have order : Number.le (.integer 1) half = true := by decide
  exact ⟨order, (filters_by_level mode console).1 (.integer 1) half order entries,
    by decide +kernel, by decide +kernel⟩

end Console

end KeyClient
