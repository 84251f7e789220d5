import ProjectLint.Report.Diagnostic
import ProjectLint.Report.Reading

/-!
# Report lines

A line of a linter's output is a finding or is skipped. Carriage returns at its end belong to the
line break and are no part of a finding.

## Main definitions

* `Report.Line`: a finding or a skipped line.
* `Report.Line.read`: what a line is. It fails only on a number with too many digits.
-/

namespace ProjectLint.Report

open Text

/-- What a line of a linter's output is. -/
inductive Line
  /-- A finding, with the file reference and the locator of its line. -/
  | finding (diagnostic : Diagnostic) (file locator : String)
  /-- Any other line, unchanged. -/
  | skipped (text : String)
  deriving DecidableEq, Repr

namespace Line

/-- The text that is cut into fields: without the carriage returns at its end and without one line
feed before them. -/
def core (cs : List Char) : List Char :=
  let cs := dropLastWhile (· = '\r') cs
  if cs.getLast? = some '\n' then cs.dropLast else cs

/-- The finding that a reading stands for; of two numbers that are too long the line is reported. -/
def ofReading (r : Reading) : Except Numeral.TooLong Line := do
  let line ← Numeral.decimal r.header.line
  let column ← Numeral.decimal r.header.column
  return .finding
    { severity := .ofLabel (String.ofList r.header.label)
      line := line
      column := column
      message := String.ofList r.trailer.message }
    (String.ofList r.file) (String.ofList r.trailer.locator)

/-- What a line is. -/
def read (text : String) : Except Numeral.TooLong Line :=
  match Reading.longest? (core text.toList) with
  | none => .ok (.skipped text)
  | some r => ofReading r

/-- The diagnostic of a finding. -/
def diagnostic? : Line → Option Diagnostic
  | finding d _ _ => some d
  | skipped _ => none

end Line

end ProjectLint.Report
