import KeyClient.Setting

/-!
# Log levels

A level is what a configuration file calls the least severe entries that are shown.  The console
compares severities as numbers: `Threshold.admits` says which of them reach it.
-/

namespace KeyClient

/-- How severe an entry must be to be shown. -/
inductive LogLevel where
  | debug
  | info
  | warn
  | error
  | silent
deriving DecidableEq, Repr, Inhabited

namespace LogLevel

/-- All levels, from the least severe on. -/
def all : List LogLevel := [debug, info, warn, error, silent]

/-- The name of a level. -/
def name : LogLevel → String
  | debug => "debug"
  | info => "info"
  | warn => "warn"
  | error => "error"
  | silent => "silent"

/-- The level with a name. -/
def ofName? (name : String) : Option LogLevel := all.find? (·.name == name)

/-- The number of a level. -/
def severity : LogLevel → Nat
  | debug => 0
  | info => 1
  | warn => 2
  | error => 3
  | silent => 4

@[simp] theorem ofName?_name (level : LogLevel) : ofName? level.name = some level := by
  cases level <;> rfl

end LogLevel

/-- The least severity that is shown; without one, nothing is. -/
abbrev Threshold := Option Number

namespace Threshold

/-- The threshold of a level. -/
def ofLevel (level : LogLevel) : Threshold := some (.integer level.severity)

/-- What a name stands for among the levels: the number of one of them, or what every collection
of settings has under that name. -/
def named (name : String) : Setting :=
  match LogLevel.ofName? name with
  | some level => .value (.ofNat level.severity)
  | none => Ground.common.get name

/-- The threshold that a setting makes; what is no number admits nothing. -/
def ofSetting (setting : Setting) : Threshold := some setting.toNumber

/-- The threshold of a name. -/
def ofName (name : String) : Threshold := ofSetting (named name)

/-- The threshold before any other is set. -/
def initial : Threshold := ofLevel .info

/-- Whether entries of the given severity are shown. -/
def admits (threshold : Threshold) (severity : Nat) : Bool :=
  match threshold with
  | some number => number.le (.integer severity)
  | none => false

/-- The name of a level makes the threshold of that level. -/
@[simp] theorem ofName_name (level : LogLevel) : ofName level.name = ofLevel level := by
  simp [ofName, named, ofSetting, ofLevel, Setting.toNumber, Setting.value?, Value.ofNat,
    Value.toNumber, Value.toNumber?]

end Threshold

end KeyClient
