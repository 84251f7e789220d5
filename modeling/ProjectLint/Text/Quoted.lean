import ProjectLint.Text.Hex
import ProjectLint.Text.Letter
import ProjectLint.Text.Printable

/-!
# Quoted texts

The form in which a text is shown inside a message: between quotes, on one line, with every
character that is not printable written as an escape. The quotes are single ones unless the text
holds a single quote and no double one, so that a quote is escaped as rarely as possible.

## Main definitions

* `Quoted.mark`: the quote put around a text.
* `Quoted.escape`: the form of one character between quotes.
* `quoted`, `quotedLetters`: a text between quotes.
-/

namespace ProjectLint.Text

namespace Quoted

/-- The quote put around a text: a double one exactly when the text holds a single quote and no
double quote. -/
def mark (cs : List Char) : Char :=
  if '\'' ∈ cs ∧ '"' ∉ cs then '"' else '\''

/-- The escape of a code point, with as many hexadecimal digits as it needs out of two, four and
eight. -/
def codePoint (n : Nat) : List Char :=
  if n < 0x100 then '\\' :: 'x' :: hex 2 n
  else if n < 0x10000 then '\\' :: 'u' :: hex 4 n
  else '\\' :: 'U' :: hex 8 n

/-- The form of one character between quotes of the given kind. -/
def escape (quote c : Char) : List Char :=
  if c = quote ∨ c = '\\' then ['\\', c]
  else if c = '\n' then ['\\', 'n']
  else if c = '\r' then ['\\', 'r']
  else if c = '\t' then ['\\', 't']
  else if ' ' ≤ c ∧ c ≤ '~' then [c]
  else if isPrintable c then [c]
  else codePoint c.toNat

/-- The form of one letter between quotes of the given kind. A half of a surrogate pair is not
printable. -/
def escapeLetter (quote : Char) : Letter → List Char
  | .char c => escape quote c
  | .half code => codePoint code

end Quoted

/-- A text of letters between quotes, on one line. -/
def quotedLetters (ls : List Letter) : List Char :=
  let q := Quoted.mark (ls.map Letter.toChar)
  q :: ls.flatMap (Quoted.escapeLetter q) ++ [q]

/-- A text between quotes, on one line. -/
def quoted (s : String) : String :=
  let q := Quoted.mark s.toList
  String.ofList (q :: s.toList.flatMap (Quoted.escape q) ++ [q])

end ProjectLint.Text
