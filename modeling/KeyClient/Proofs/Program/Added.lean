import KeyClient.Http.Offline
import KeyClient.Proofs.Client.Ending
import KeyClient.Proofs.CommandLine.Supplied

/-!
# Options that are added

The command for keys may get further options of the kinds that `OptionSpec` describes, as long as each
has a slot of its own (`Program.AreApart`); none of these imply values of other options or take their
own from the environment.  They leave the two fields of the request alone: whatever they are, the
dispatcher reads both fields from the matches of the command, and the hook is asked about the last
values supplied for them (`Program.reads_supplied`).  An added option that takes a text as it is
(`OptionSpec.IsPlain`) can be read as a text in the same way.
-/

namespace KeyClient

open KeyClient.CommandLine

namespace Dispatch

theorem ofFlags_of_reads {m : Matches} {key : Option Bool} {uniqueKey : Option String}
    (readsKey : m.boolean? Operation.keyFlag.name = .ok key)
    (readsUniqueKey : m.text? Operation.uniqueKeyFlag.name = .ok uniqueKey) :
    ofFlags m = .ok ⟨key, uniqueKey⟩ := by
  rw [ofFlags, readsKey, readsUniqueKey]
  rfl

/-- If the fields can be read, the hook is asked about them first, and the only failures are its
verdict and that of quoting what cannot be put in words. -/
theorem finish_startNamed {m : Matches} {request : KeyRequest} (flags : ofFlags m = .ok request)
    (client : Client) (hook : Hook) (transport : Http.Transport) :
    let execution := (startNamed client hook "key-get" m).finish transport
    [.log (stageEntry "flags applied" request), .consult m request] <+: execution.1 ∧
      ∀ failure, execution.2 = .error failure →
        verdictFailure? (hook m request).verdict = some failure ∨
          ∃ sent ∈ requested execution.1, ∃ reason,
            (transport sent).Raises reason ∧ reason.Wordless failure := by
  intro execution
  have named : execution = (start client hook m).finish transport := rfl
  have asked : [.log (stageEntry "flags applied" request), .consult m request] <+:
      [.log (stageEntry "flags applied" request)] ++ (consult hook m request).1 := ⟨_, rfl⟩
  rw [named]
  cases verdict : verdictFailure? (hook m request).verdict with
  | some failure =>
    rw [start_of_failure flags verdict]
    refine ⟨asked, fun failure' failed => .inl ?_⟩
    cases failed
    rfl
  | none =>
    rw [start_of_accept flags verdict, Run.finish]
    refine ⟨(asked.trans (List.prefix_append _ _)).trans (List.prefix_append _ _),
      fun failure failed => .inr ?_⟩
    have failed : (conclude ((send client (hook m request).request).2.finish transport)).2 =
      .error failure := failed
    rw [conclude_eq_error_iff, Client.finish_send_eq_error_iff] at failed
    obtain ⟨sent, mem, raises⟩ := failed
    refine ⟨sent, ?_, raises⟩
    rw [requested_append, requested_append]
    exact List.mem_append_left _ (List.mem_append_right _ mem)

end Dispatch

/-! ## How options read their texts -/

namespace CommandLine.OptionSpec

/-- The option takes one text, as it is: it is declared with a place for a value and switches
nothing off, and it has no default, stand-in, choices or reader. -/
structure IsPlain (spec : OptionSpec) : Prop where
  required : spec.isRequired = true
  single : spec.isVariadic = false
  positive : spec.isNegated = false
  default : spec.default = .undefined
  standIn : spec.standIn = .undefined
  choices : spec.choices = none
  reader : spec.reader = none

theorem IsPlain.reads {spec : OptionSpec} (h : spec.IsPlain) :
    spec.Reads fun s => some (.string s) where
  required := h.required
  positive := h.positive
  default := h.default
  receive old s v received := by
    have converted : spec.convert old (.string s) = .ok (.string s) := by
      rw [convert, h.reader, h.choices]
      simp [h.single]
    rw [receive_text h.standIn, converted] at received
    cases received
    rfl

end CommandLine.OptionSpec

namespace Program

/-- The truth value that a text stands for. -/
def truth? (s : String) : Option Bool := (parseBoolean (.string s)).toOption

theorem toString_of_truth? {s : String} {b : Bool} (h : truth? s = some b) : toString b = s := by
  unfold truth? parseBoolean at h
  split at h
  · next same =>
    cases same
    cases h
    rfl
  · next same =>
    cases same
    cases h
    rfl
  · cases h

theorem reads_key : (flagOption Operation.keyFlag).Reads fun s => (truth? s).map .bool where
  required := by decide
  positive := by decide
  default := rfl
  receive old s v received := by
    rw [OptionSpec.receive_text rfl] at received
    have converted : (flagOption Operation.keyFlag).convert old (.string s) =
        (parseBoolean (.string s)).map .bool := rfl
    rw [converted] at received
    unfold truth?
    cases read : parseBoolean (.string s) with
    | error reason =>
      rw [read] at received
      cases received
    | ok b =>
      rw [read] at received
      cases received
      rfl

theorem isPlain_uniqueKey : (flagOption Operation.uniqueKeyFlag).IsPlain where
  required := by decide
  single := by decide
  positive := by decide
  default := rfl
  standIn := rfl
  choices := rfl
  reader := rfl

/-! ## Adding options -/

/-- Options that may be added to the command for keys: they are declared, none of them shares a slot
with another or takes one of the command, and on the common ground there is nothing in their
slots. -/
structure AreApart (extras : List OptionSpec) : Prop where
  declared : ∀ spec ∈ extras, spec.IsDeclared
  slots : (extras.map OptionSpec.slot).Nodup
  foreign : ∀ spec ∈ extras, spec.slot ∉ ["key", "uniqueKey"]
  free : ∀ spec ∈ extras, Ground.common.get spec.slot = .missing

theorem extend_eq {command command' : Command} {extras : List OptionSpec}
    (h : extend command extras = .ok command') :
    command' = { command with options := command.options ++ extras } := by
  unfold extend at h
  induction extras generalizing command with
  | nil =>
    cases h
    simp
  | cons spec rest ih =>
    rw [List.foldlM_cons] at h
    cases added : command.addOption spec with
    | error failure =>
      rw [added] at h
      cases h
    | ok next =>
      rw [added] at h
      have grown : next = { command with options := command.options ++ [spec] } := by
        unfold Command.addOption at added
        split at added
        · cases added
        · split at added
          · cases added
          · cases added
            rfl
      rw [ih h, grown]
      simp

theorem isDistinct_keyGet : (operationCommand .keyGet).IsDistinct where
  declared := List.forall_mem_cons.2 ⟨rfl, List.forall_mem_singleton.2 rfl⟩
  slots := by decide
  free := List.forall_mem_cons.2 ⟨rfl, List.forall_mem_singleton.2 rfl⟩

/-- The options of the command for keys and those that are added have slots of their own. -/
theorem AreApart.isDistinct {extras : List OptionSpec} (apart : AreApart extras)
    {command : Command} (built : extend (operationCommand .keyGet) extras = .ok command) :
    command.IsDistinct := by
  obtain rfl := extend_eq built
  have slots : (operationCommand .keyGet).slots = ["key", "uniqueKey"] := rfl
  refine ⟨List.forall_mem_append.2 ⟨isDistinct_keyGet.declared, apart.declared⟩, ?_,
    List.forall_mem_append.2 ⟨isDistinct_keyGet.free, apart.free⟩⟩
  rw [Command.slots, List.map_append]
  refine isDistinct_keyGet.slots.append apart.slots fun slot own added => ?_
  obtain ⟨spec, mem, rfl⟩ := List.mem_map.1 added
  exact apart.foreign spec mem (slots ▸ own)

/-! ## What is read of a command line -/

section

variable {command : Command} {spec : OptionSpec} {state after : CommandState}
  {parent : Option Parent} {operands args : List String}

/-- A plain option reads as the last text that was supplied for it, if one was. -/
theorem text?_of_isPlain (distinct : command.IsDistinct) (mem : spec ∈ command.options)
    (plain : spec.IsPlain) (reached : CommandState.Reached command state)
    (parsed : command.parse parent state operands args = (after, none)) :
    let m := command.matchesOf after.values
    m.text? spec.name = .ok (command.supplied args spec.name).getLast? ∧
      (m.has spec.name = true ↔ command.supplied args spec.name ≠ []) := by
  intro m
  have held := CommandState.setting_parse distinct mem plain.reads reached parsed
  rw [Command.has_matchesOf_iff distinct mem, Matches.text?,
    Command.get_matchesOf distinct mem]
  cases last : (command.supplied args spec.name).getLast? with
  | none =>
    rw [last] at held
    rw [held]
    exact ⟨rfl, by simp [List.getLast?_eq_none_iff.1 last]⟩
  | some s =>
    rw [last] at held
    obtain ⟨v, same, held⟩ := held
    cases same
    rw [held]
    have supplied : command.supplied args spec.name ≠ [] := by
      rintro none
      rw [none] at last
      cases last
    exact ⟨rfl, iff_of_true nofun supplied⟩

/-- The key reads as what the last text supplied for it says, if there is one. -/
theorem boolean?_key (distinct : command.IsDistinct)
    (mem : flagOption Operation.keyFlag ∈ command.options)
    (reached : CommandState.Reached command state)
    (parsed : command.parse parent state operands args = (after, none)) :
    ∃ key, (command.matchesOf after.values).boolean? "key" = .ok key ∧
      key.map toString = (command.supplied args "key").getLast? := by
  have held := CommandState.setting_parse distinct mem reads_key reached parsed
  have name : (flagOption Operation.keyFlag).name = "key" := rfl
  rw [name] at held
  rw [Matches.boolean?, ← name, Command.get_matchesOf distinct mem, name]
  cases last : (command.supplied args "key").getLast? with
  | none =>
    rw [last] at held
    rw [held]
    exact ⟨none, rfl, rfl⟩
  | some s =>
    rw [last] at held
    obtain ⟨v, same, held⟩ := held
    obtain ⟨b, truth, rfl⟩ := Option.map_eq_some_iff.1 same
    rw [held]
    exact ⟨some b, rfl, congrArg some (toString_of_truth? truth)⟩

end

/-- **Added options.**  Whatever options are added to the command for keys, as long as each has a
slot of its own, and whatever the command parsed before: of a command line that it carries out, the
dispatcher reads both fields, and the hook is first asked about the last values supplied for them, so
that nothing fails but the hook, or the attempt to quote what has no text.  An added option that takes
a text as it is reads as the last text supplied for it, and is there exactly if one was.

The options are those of `OptionSpec`: one that sets other options, takes its value from elsewhere
than the command line or excludes others is none of them. -/
theorem reads_supplied {extras : List OptionSpec} (apart : AreApart extras) {command : Command}
    (built : (commandFor "key-get").bind (extend · extras) = .ok command)
    {state after : CommandState} (reached : CommandState.Reached command state)
    {parent : Option Parent} {operands args : List String}
    (parsed : command.parse parent state operands args = (after, none)) (client : Client)
    (hook : Hook) (transport : Http.Transport) :
    let m := command.matchesOf after.values
    let supplied := command.supplied args
    let execution := (Dispatch.startNamed client hook "key-get" m).finish transport
    (after.take command).1 = m ∧
    (∃ request : KeyRequest,
      request.key.map toString = (supplied "key").getLast? ∧
      request.uniqueKey = (supplied "unique-key").getLast? ∧
      [.log (Dispatch.stageEntry "flags applied" request), .consult m request] <+: execution.1 ∧
      ∀ failure, execution.2 = .error failure →
        Dispatch.verdictFailure? (hook m request).verdict = some failure ∨
          ∃ sent ∈ Dispatch.requested execution.1, ∃ reason,
            (transport sent).Raises reason ∧ reason.Wordless failure) ∧
    ∀ spec ∈ extras, spec.IsPlain →
      m.text? spec.name = .ok (supplied spec.name).getLast? ∧
        (m.has spec.name = true ↔ supplied spec.name ≠ []) := by
  intro m supplied execution
  have distinct := apart.isDistinct built
  have options : command.options = (operationCommand .keyGet).options ++ extras := by
    rw [extend_eq built]
  have own : ∀ spec ∈ (operationCommand .keyGet).options, spec ∈ command.options :=
    fun spec mem => options ▸ List.mem_append_left _ mem
  obtain ⟨key, readsKey, lastKey⟩ :=
    boolean?_key distinct (own _ List.mem_cons_self) reached parsed
  have uniqueKey := (text?_of_isPlain distinct
    (own _ (List.mem_cons_of_mem _ List.mem_cons_self)) isPlain_uniqueKey reached parsed).1
  have flags := Dispatch.ofFlags_of_reads readsKey uniqueKey
  exact ⟨rfl, ⟨_, lastKey, rfl, Dispatch.finish_startNamed flags client hook transport⟩,
    fun spec mem plain =>
      text?_of_isPlain distinct (options ▸ List.mem_append_right _ mem) plain reached parsed⟩

/-- Another option for a key. -/
def altKey : OptionSpec := option "--alt-key <string>" "" "--alt-key" "" none

/-- An option that is a single letter. -/
def quiet : OptionSpec := option "-q" "-q" "" "" none

/-- Values that are spelled like options, an option that collects values, and one without. -/
theorem reads_supplied_spelled :
    let extras := [altKey, CommandState.tags, quiet]
    let command := CommandState.keysWith extras
    let args := ["--alt-key", "--key", "--tags", "a", "b", "--key=true", "-q", "--unique-key",
      "--alt-key", "--key", "false"]
    let after := (command.parse none (.fresh command) [] args).1
    let m := command.matchesOf after.values
    let client := Client.ofAddress "http://localhost:8080" none
    let execution := (Dispatch.startNamed client Hook.acceptAll "key-get" m).finish Http.offline
    AreApart extras ∧ (commandFor "key-get").bind (extend · extras) = .ok command ∧
      command.parse none (.fresh command) [] args = (after, none) ∧ altKey.IsPlain ∧
      (∃ request : KeyRequest, request.key.map toString = some "false" ∧
        request.uniqueKey = some "--alt-key" ∧
        [.log (Dispatch.stageEntry "flags applied" request), .consult m request] <+:
          execution.1) ∧
      m.text? "alt-key" = .ok (some "--key") ∧ m.has "alt-key" = true := by
  intro extras command args after m client execution
  have apart : AreApart extras := {
    declared := List.forall_mem_cons.2 ⟨rfl, List.forall_mem_cons.2 ⟨rfl,
      List.forall_mem_singleton.2 rfl⟩⟩
    slots := by decide +kernel
    foreign := by decide +kernel
    free := List.forall_mem_cons.2 ⟨rfl, List.forall_mem_cons.2 ⟨rfl,
      List.forall_mem_singleton.2 rfl⟩⟩ }
  have built : (commandFor "key-get").bind (extend · extras) = .ok command := rfl
  have ends : (command.parse none (.fresh command) [] args).2 = none := by decide +kernel
  have parsed : command.parse none (.fresh command) [] args = (after, none) := Prod.ext rfl ends
  have plain : altKey.IsPlain := ⟨by decide, by decide, by decide, rfl, rfl, rfl, rfl⟩
  have keys : command.supplied args "key" = ["true", "false"] := by decide +kernel
  have uniqueKeys : command.supplied args "unique-key" = ["--alt-key"] := by decide +kernel
  have altKeys : command.supplied args "alt-key" = ["--key"] := by decide +kernel
  obtain ⟨-, ⟨request, key, uniqueKey, asked, -⟩, added⟩ :=
    reads_supplied apart built .fresh parsed client Hook.acceptAll Http.offline
  have text := added altKey List.mem_cons_self plain
  have name : altKey.name = "alt-key" := rfl
  rw [name, altKeys] at text
  rw [keys] at key
  rw [uniqueKeys] at uniqueKey
  exact ⟨apart, built, parsed, plain, ⟨request, key, uniqueKey, asked⟩, text.1,
    text.2.2 (List.cons_ne_nil _ _)⟩

end Program

end KeyClient
