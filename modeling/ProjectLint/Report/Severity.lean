/-!
# Severities

A linter labels each finding with a word. Two words are known, and every other one counts as a
severity of its own kind, so that no finding is dropped for its label.

## Main definitions

* `Severity`: error, warning, or anything else.
* `Severity.ofLabel`: the severity that a label stands for.
* `Severity.tag`: the text put in front of a message shown to the user.
-/

namespace ProjectLint

/-- The severity of a finding. -/
inductive Severity
  | error
  | warning
  | other
  deriving DecidableEq, Repr

namespace Severity

/-- The severity that a label stands for. Labels are compared exactly. -/
def ofLabel (label : String) : Severity :=
  if label = "Error" then .error else if label = "Warning" then .warning else .other

/-- The name of a severity. -/
def name : Severity → String
  | error => "error"
  | warning => "warning"
  | other => "other"

/-- The severity of a given name. -/
def ofName? : String → Option Severity
  | "error" => some error
  | "warning" => some warning
  | "other" => some other
  | _ => none

/-- The kind of problem that an editor shows for a severity. -/
def problemType : Severity → String
  | error => "problem_type_error"
  | warning => "problem_type_warning"
  | other => "problem_type_meta"

/-- The text put in front of a message of this severity. -/
def tag : Severity → String
  | error => "ERROR: "
  | warning => "WARNING: "
  | other => "UNKNOWN: "

/-- A severity is found by its name. -/
@[simp] theorem ofName?_name : (s : Severity) → ofName? s.name = some s
  | error => rfl
  | warning => rfl
  | other => rfl

end Severity

end ProjectLint
