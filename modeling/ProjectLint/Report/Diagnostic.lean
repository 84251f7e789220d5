import ProjectLint.Report.Severity

/-!
# Diagnostics

A diagnostic keeps the line and the column as the linter counts them, from one on. An editor
counts from zero, and a number below one is moved to the first line or column.

## Main definitions

* `Diagnostic`: a severity, a place and a message.
* `Diagnostic.position`: the place as an editor counts it.
* `Problem`: the form in which an editor receives a diagnostic.
-/

namespace ProjectLint

/-- A place in a file, counted from zero. -/
structure Position where
  line : Nat
  ch : Nat
  deriving DecidableEq, Repr

/-- One finding of a linter, with the line and the column that the linter gave. -/
structure Diagnostic where
  severity : Severity
  line : Int
  column : Int
  message : String
  deriving DecidableEq, Repr

/-- What an editor receives for a diagnostic. -/
structure Problem where
  type : String
  message : String
  position : Position
  deriving DecidableEq, Repr

namespace Diagnostic

/-- The place of a diagnostic, counted from zero. -/
def position (d : Diagnostic) : Position := ⟨(d.line - 1).toNat, (d.column - 1).toNat⟩

/-- The message with its tag in front. -/
def display (d : Diagnostic) : String := d.severity.tag ++ d.message

/-- The form in which an editor receives a diagnostic. -/
def problem (d : Diagnostic) : Problem := ⟨d.severity.problemType, d.display, d.position⟩

@[simp] theorem problem_position (d : Diagnostic) : d.problem.position = d.position := rfl

@[simp] theorem problem_message (d : Diagnostic) : d.problem.message = d.display := rfl

end Diagnostic

end ProjectLint
