import ProjectLint.Report.Basic

/-!
# The compact form of a finding

The line that a linter prints for a finding, with a single space in every gap.

## Main definitions

* `Finding`: what a linter reports about one place.
* `Finding.render`: its line in the compact form.
* `Finding.renderAll`: the lines of several findings.
* `Finding.diagnostic`: the diagnostic that is meant.
-/

namespace ProjectLint

/-- What a linter reports about one place of a file. -/
structure Finding where
  file : List Char
  line : Nat
  column : Nat
  label : List Char
  message : List Char
  locator : List Char
  deriving DecidableEq, Repr

namespace Finding

open Text

/-- The line of a finding in the compact form. -/
def render (f : Finding) : List Char :=
  f.file ++ [':', ' ', 'l', 'i', 'n', 'e', ' '] ++ Nat.toDigits 10 f.line ++
    [',', ' ', 'c', 'o', 'l', ' '] ++ Nat.toDigits 10 f.column ++ [',', ' '] ++ f.label ++
      [' ', '-', ' '] ++ f.message ++ [' '] ++ f.locator

/-- The lines of several findings, with a line feed between each two. -/
def renderAll (fs : List Finding) : List Char := join ['\n'] (fs.map render)

/-- The diagnostic that a finding stands for. -/
def diagnostic (f : Finding) : Diagnostic :=
  { severity := .ofLabel (String.ofList f.label)
    line := f.line
    column := f.column
    message := String.ofList f.message }

/-- A finding that can be told from its line: the free texts are not empty and stay on one line,
the label and the locator have no blank, and the numbers have no more digits than are read. -/
structure Plain (f : Finding) : Prop where
  file_ne_nil : f.file ≠ []
  file : '\n' ∉ f.file
  line : (Nat.toDigits 10 f.line).length ≤ Numeral.maxDigits
  column : (Nat.toDigits 10 f.column).length ≤ Numeral.maxDigits
  label_ne_nil : f.label ≠ []
  label : ∀ c ∈ f.label, isBlank c = false
  message_ne_nil : f.message ≠ []
  message : '\n' ∉ f.message
  locator_ne_nil : f.locator ≠ []
  locator : ∀ c ∈ f.locator, isBlank c = false

end Finding

end ProjectLint
