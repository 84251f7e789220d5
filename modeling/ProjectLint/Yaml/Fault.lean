import ProjectLint.Calendar
import ProjectLint.Text.Numeral
import ProjectLint.Text.Quoted

/-!
# What can be wrong with a document

A document can be malformed, which says no more than that it is no document of the format. Beyond
that, a scalar can be of a form that its type allows and still have no value, such as a date that
the calendar does not have.

## Main definitions

* `Yaml.Fault`: what is wrong.
* `Yaml.Fault.message`: its wording.
-/

namespace ProjectLint.Yaml

open Text (Letter)

/-- What is wrong with a document. -/
inductive Fault
  /-- It is no document of the format. -/
  | malformed
  /-- An escape names a code point that does not exist. -/
  | codePoint (n : Nat)
  /-- A numeral has a digit that its base does not have, or none. -/
  | numeral (base : Nat) (text : List Letter)
  /-- A numeral has too many digits. -/
  | tooLong (e : Text.Numeral.TooLong)
  /-- A text denotes no number. -/
  | number (text : List Letter)
  /-- A number is expected and nothing, or only a sign, is found. -/
  | emptyNumber
  /-- A factor of a number in base sixty is out of range. -/
  | overflow
  /-- A word is no truth value. -/
  | truthValue (text : List Letter)
  /-- A text is no date. -/
  | timestamp
  /-- A mapping stands for a date. -/
  | dateMapping
  /-- A date or a time is out of range. -/
  | calendar (e : Calendar.Fault)
  /-- A node is part of itself. -/
  | recursive
  deriving DecidableEq, Repr

/-- The text shown for a document that is malformed. -/
def malformedText : String := "<yaml error>"

/-- The greatest number of characters of a wrong numeral that are shown. -/
def shownNumeral : Nat := 200

/-- The wording of a fault. -/
def Fault.message : Fault → String
  | malformed => malformedText
  | codePoint n =>
    if n ≤ 0x7fffffff then "chr() arg not in range(0x110000)"
    else "Python int too large to convert to C int"
  | numeral base text =>
    s!"invalid literal for int() with base {base}: " ++
      String.ofList ((Text.quotedLetters text).take shownNumeral)
  | tooLong e => e.message
  | number text =>
    "could not convert string to float: " ++ String.ofList (Text.quotedLetters text)
  | emptyNumber => "string index out of range"
  | overflow => "int too large to convert to float"
  | truthValue text => String.ofList (Text.quotedLetters text)
  | timestamp => "'NoneType' object has no attribute 'groupdict'"
  | dateMapping => "expected string or bytes-like object, got 'list'"
  | calendar e => e.message
  | recursive => "maximum recursion depth exceeded"

end ProjectLint.Yaml
