import ProjectLint.Text.Hex

/-!
# Strings in JSON

A string of a JSON document written with ASCII characters alone. A character outside the Basic
Multilingual Plane takes two escapes, one for each half of its surrogate pair.

## Main definitions

* `utf16`: the UTF-16 code units of a character.
* `JsonString.escape`: the form of one character.
* `jsonString`: a text between double quotes.
-/

namespace ProjectLint.Text

/-- The UTF-16 code units of a character: one, or the two halves of a surrogate pair. -/
def utf16 (c : Char) : List Nat :=
  if c.toNat < 0x10000 then [c.toNat]
  else [0xd800 + (c.toNat - 0x10000) / 0x400, 0xdc00 + (c.toNat - 0x10000) % 0x400]

/-- The form of one character inside a JSON string. -/
def JsonString.escape (c : Char) : List Char :=
  if c = '"' ∨ c = '\\' then ['\\', c]
  else if c = '\n' then ['\\', 'n']
  else if c = '\r' then ['\\', 'r']
  else if c = '\t' then ['\\', 't']
  else if c = '\x08' then ['\\', 'b']
  else if c = '\x0c' then ['\\', 'f']
  else if ' ' ≤ c ∧ c ≤ '~' then [c]
  else (utf16 c).flatMap fun u => '\\' :: 'u' :: hex 4 u

/-- A text as a JSON string, in ASCII. -/
def jsonString (s : String) : String :=
  String.ofList ('"' :: s.toList.flatMap JsonString.escape ++ ['"'])

end ProjectLint.Text
