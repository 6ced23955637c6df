import KeyClient.Client
import KeyClient.Value.Display

/-!
# Reports

What is printed about the outcome of a request: a line that is always the same, and the outcome
in full below it.
-/

namespace KeyClient.Report

/-- The first line of every report. -/
def headline : String := "success"

/-- The report on a value. -/
def ofValue (value : Value) : String := headline ++ "\n" ++ value.display .full

/-- The report on an outcome. -/
def ofOutcome (outcome : Outcome) : String := ofValue outcome.toValue

end KeyClient.Report
