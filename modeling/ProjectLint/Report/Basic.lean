import ProjectLint.Report.Line
import ProjectLint.Text.Split

/-!
# Reports

A report lists the findings of a linter's output in the order of its lines.

## Main definitions

* `Report`: a list of diagnostics.
* `Report.lines`: what each line of an output is.
* `Report.ofOutput`: the report of an output.
* `Report.count`: the number of findings of a severity.
-/

namespace ProjectLint

/-- The diagnostics of one file, in the order in which they were printed. -/
structure Report where
  diagnostics : List Diagnostic
  deriving DecidableEq, Repr

namespace Report

/-- The report without a finding. -/
def empty : Report := ⟨[]⟩

/-- The number of findings. -/
def length (r : Report) : Nat := r.diagnostics.length

/-- The number of findings of a severity. -/
def count (r : Report) (s : Severity) : Nat :=
  r.diagnostics.countP (·.severity = s)

/-- What an editor receives for a report. -/
def problems (r : Report) : List Problem := r.diagnostics.map Diagnostic.problem

@[simp] theorem problems_empty : empty.problems = [] := rfl

@[simp] theorem length_problems (r : Report) : r.problems.length = r.length := by
  simp [problems, length]

/-- What each line of an output is, or the first number that is too long. -/
def lines (output : String) : Except Text.Numeral.TooLong (List Line) :=
  (Text.lines output.toList).mapM fun cs => Line.read (String.ofList cs)

/-- The findings among lines. -/
def ofLines (ls : List Line) : Report := ⟨ls.filterMap Line.diagnostic?⟩

@[simp] theorem ofLines_append (ls ms : List Line) :
    (ofLines (ls ++ ms)).diagnostics = (ofLines ls).diagnostics ++ (ofLines ms).diagnostics := by
  simp [ofLines]

/-- The report of an output. -/
def ofOutput (output : String) : Except Text.Numeral.TooLong Report :=
  (lines output).map ofLines

end Report

end ProjectLint
