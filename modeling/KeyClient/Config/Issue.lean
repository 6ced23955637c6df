import KeyClient.Log.Level
import KeyClient.Value.Basic

/-!
# Issues

What is wrong with a configuration, field by field.  An issue has a message for the user and a
full form as an object; both are worded as the issues of zod 3.25.76 are.
-/

namespace KeyClient.Config

/-- What a field must be. -/
inductive Expected where
  | object
  | string
  | number
  | level
deriving DecidableEq, Repr

/-- The names of the levels as alternatives. -/
def levelChoices : String :=
  " | ".intercalate (LogLevel.all.map fun level => "'" ++ level.name ++ "'")

/-- What a field must be, in words. -/
def Expected.name : Expected → String
  | object => "object"
  | string => "string"
  | number => "number"
  | level => levelChoices

/-- What is wrong with a field. -/
inductive Fault where
  | wrongType (expected : Expected) (received : Value)
  | notWhole
  | tooSmall (minimum : Nat)
  | tooBig (maximum : Nat)
  | invalidAddress
  | wrongVersion (received : Value)
  | unknownLevel (received : String)
deriving Repr, BEq

namespace Fault

/-- The message for the user. -/
def message : Fault → String
  | wrongType _ .undefined => "Required"
  | wrongType expected received => s!"Expected {expected.name}, received {received.kind}"
  | notWhole => "Expected integer, received float"
  | tooSmall minimum => s!"Number must be greater than or equal to {minimum}"
  | tooBig maximum => s!"Number must be less than or equal to {maximum}"
  | invalidAddress => "Invalid url"
  | wrongVersion _ => "Invalid literal value, expected 1"
  | unknownLevel received =>
    s!"Invalid enum value. Expected {levelChoices}, received '{received}'"

/-- The members that tell the faults apart. -/
def details : Fault → List (String × Value)
  | wrongType expected received =>
    [("code", .string "invalid_type"), ("expected", .string expected.name),
      ("received", .string received.kind)]
  | notWhole =>
    [("code", .string "invalid_type"), ("expected", .string "integer"),
      ("received", .string "float")]
  | tooSmall minimum =>
    [("code", .string "too_small"), ("minimum", .ofNat minimum), ("type", .string "number"),
      ("inclusive", .bool true), ("exact", .bool false)]
  | tooBig maximum =>
    [("code", .string "too_big"), ("maximum", .ofNat maximum), ("type", .string "number"),
      ("inclusive", .bool true), ("exact", .bool false)]
  | invalidAddress => [("validation", .string "url"), ("code", .string "invalid_string")]
  | wrongVersion received =>
    [("received", received), ("code", .string "invalid_literal"), ("expected", .ofNat 1)]
  | unknownLevel received =>
    [("received", .string received), ("code", .string "invalid_enum_value"),
      ("options", .array (LogLevel.all.map fun level => .string level.name))]

end Fault

/-- A fault of the field at a path. -/
structure Issue where
  path : List String
  fault : Fault
deriving Repr, BEq

namespace Issue

/-- The message for the user. -/
def message (issue : Issue) : String := issue.fault.message

/-- The issue as an object. -/
def toValue (issue : Issue) : Value :=
  .object (issue.fault.details ++
    [("path", .array (issue.path.map .string)), ("message", .string issue.message)])

/-- The issue of a field as an issue of the object it belongs to. -/
def within (field : String) (issue : Issue) : Issue := { issue with path := field :: issue.path }

/-- The issue on a line of its own. -/
def line (issue : Issue) : String := "  - " ++ ".".intercalate issue.path ++ ": " ++ issue.message

end Issue

/-- Issues on lines of their own. -/
def issueLines (issues : List Issue) : String := "\n".intercalate (issues.map Issue.line)

/-- Issues as an array. -/
def issuesValue (issues : List Issue) : Value := .array (issues.map Issue.toValue)

end KeyClient.Config
