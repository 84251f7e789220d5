import ProjectLint.Text.Blank
import ProjectLint.Text.Numeral

/-!
# Readings of a report line

A finding is reported on one line, in the compact form

    src/app.js: line 10, col 5, Error - Missing semicolon (semi)

A reading cuts a line into the fields of this form. The file reference, the message and the
locator at its end are free text, so a line can have many readings; the one with the longest file
reference is meant, and of these the one with the longest message.

## Main definitions

* `Reading`: the fields of a finding and the blanks between them.
* `Reading.text`: the line that a reading cuts up.
* `Reading.Valid`: what the fields of a finding are made of.
* `Reading.longest?`: the reading that is meant.

## Main results

* `Trailer.valid_of_longest?`: what the parts of a trailer are made of.
-/

namespace ProjectLint.Report

open Text

/-- The fixed part of a finding, between the file reference and the message. -/
structure Header where
  /-- The blank after the colon. -/
  gap₁ : Char
  /-- The blank after `line`. -/
  gap₂ : Char
  /-- The digits of the line number. -/
  line : List Char
  /-- The blank before `col`. -/
  gap₃ : Char
  /-- The blank after `col`. -/
  gap₄ : Char
  /-- The digits of the column number. -/
  column : List Char
  /-- The blank before the label. -/
  gap₅ : Char
  /-- The severity label. -/
  label : List Char
  /-- The blank after the label. -/
  gap₆ : Char
  /-- The blank after the hyphen. -/
  gap₇ : Char
  deriving DecidableEq, Repr

namespace Header

/-- The characters of a header. -/
def text (h : Header) : List Char :=
  ':' :: h.gap₁ :: 'l' :: 'i' :: 'n' :: 'e' :: h.gap₂ :: h.line ++
    ',' :: h.gap₃ :: 'c' :: 'o' :: 'l' :: h.gap₄ :: h.column ++
      ',' :: h.gap₅ :: h.label ++ h.gap₆ :: '-' :: h.gap₇ :: []

/-- The gaps are blanks, the numbers are digits and the label has no blank; none is empty. -/
structure Valid (h : Header) : Prop where
  gap₁ : isBlank h.gap₁ = true
  gap₂ : isBlank h.gap₂ = true
  line_ne_nil : h.line ≠ []
  line : ∀ c ∈ h.line, c.isDigit = true
  gap₃ : isBlank h.gap₃ = true
  gap₄ : isBlank h.gap₄ = true
  column_ne_nil : h.column ≠ []
  column : ∀ c ∈ h.column, c.isDigit = true
  gap₅ : isBlank h.gap₅ = true
  label_ne_nil : h.label ≠ []
  label : ∀ c ∈ h.label, isBlank c = false
  gap₆ : isBlank h.gap₆ = true
  gap₇ : isBlank h.gap₇ = true

/-- A blank at the front of a text, and the rest. -/
def blank? : List Char → Option (Char × List Char)
  | [] => none
  | c :: cs => if isBlank c then some (c, cs) else none

/-- What follows a given text at the front of `cs`. -/
def after? (expected cs : List Char) : Option (List Char) :=
  if expected.isPrefixOf cs then some (cs.drop expected.length) else none

/-- The longest run of characters that satisfy `p` at the front of a text, unless it is empty, and
the rest. -/
def run? (p : Char → Bool) (cs : List Char) : Option (List Char × List Char) :=
  if cs.takeWhile p = [] then none else some (cs.takeWhile p, cs.dropWhile p)

/-- Reads a header at the front of a text. The runs are as long as they can be: a digit cannot
stand where a comma is expected, nor a character of a label where a blank is. -/
def read? (cs : List Char) : Option (Header × List Char) := do
  let cs ← after? [':'] cs
  let (gap₁, cs) ← blank? cs
  let cs ← after? ['l', 'i', 'n', 'e'] cs
  let (gap₂, cs) ← blank? cs
  let (line, cs) ← run? Char.isDigit cs
  let cs ← after? [','] cs
  let (gap₃, cs) ← blank? cs
  let cs ← after? ['c', 'o', 'l'] cs
  let (gap₄, cs) ← blank? cs
  let (column, cs) ← run? Char.isDigit cs
  let cs ← after? [','] cs
  let (gap₅, cs) ← blank? cs
  let (label, cs) ← run? (fun c => !isBlank c) cs
  let (gap₆, cs) ← blank? cs
  let cs ← after? ['-'] cs
  let (gap₇, cs) ← blank? cs
  some (⟨gap₁, gap₂, line, gap₃, gap₄, column, gap₅, label, gap₆, gap₇⟩, cs)

end Header

/-- The free text at the end of a finding. -/
structure Trailer where
  /-- The message. -/
  message : List Char
  /-- The blank after the message. -/
  gap : Char
  /-- The locator, for instance the name of a rule. -/
  locator : List Char
  deriving DecidableEq, Repr

namespace Trailer

/-- The characters of a trailer. -/
def text (t : Trailer) : List Char := t.message ++ t.gap :: t.locator

/-- The gap is a blank; the message and the locator are not empty and stay on one line. -/
structure Valid (t : Trailer) : Prop where
  message_ne_nil : t.message ≠ []
  message : '\n' ∉ t.message
  gap : isBlank t.gap = true
  locator_ne_nil : t.locator ≠ []
  locator : '\n' ∉ t.locator

/-- Cuts a text into a message and a locator, with the message as long as possible. -/
def longest? : List Char → Option Trailer
  | [] => none
  | c :: cs =>
    if c = '\n' then none
    else match longest? cs with
      | some t => some { t with message := c :: t.message }
      | none => match cs with
        | [] => none
        | gap :: locator =>
          if isBlank gap ∧ locator ≠ [] ∧ '\n' ∉ locator then some ⟨[c], gap, locator⟩ else none

/-- The fields of a trailer are as they should be, and make up the text that was cut. -/
theorem valid_of_longest? : ∀ {cs : List Char} {t : Trailer},
    longest? cs = some t → t.Valid ∧ t.text = cs
  | [], t, h => by simp [longest?] at h
  | c :: cs, t, h => by
    unfold longest? at h
    split at h
    · simp at h
    · next hc =>
      split at h
      · next u hu =>
        obtain ⟨hv, ht⟩ := valid_of_longest? hu
        obtain rfl := Option.some.inj h
        refine ⟨⟨by simp, ?_, hv.gap, hv.locator_ne_nil, hv.locator⟩, by simp [text, ← ht]⟩
        simpa [eq_comm, hc] using hv.message
      · split at h
        · simp at h
        · next gap locator =>
          split at h
          · next hl =>
            obtain rfl := Option.some.inj h
            exact ⟨⟨by simp, by simpa [eq_comm] using hc, hl.1, hl.2.1, hl.2.2⟩, rfl⟩
          · simp at h

end Trailer

/-- A way to cut a line into the fields of a finding. -/
structure Reading where
  /-- The file reference. -/
  file : List Char
  /-- The fixed part. -/
  header : Header
  /-- The free text at the end. -/
  trailer : Trailer
  deriving DecidableEq, Repr

namespace Reading

/-- The characters of the line that a reading cuts up. -/
def text (r : Reading) : List Char := r.file ++ (r.header.text ++ r.trailer.text)

/-- The fields of a reading are as they should be: the file reference is not empty and stays on one
line, and the header and the trailer are valid. -/
structure Valid (r : Reading) : Prop where
  file_ne_nil : r.file ≠ []
  file : '\n' ∉ r.file
  header : r.header.Valid
  trailer : r.trailer.Valid

/-- A reading of what follows a file reference. -/
def afterFile? (cs : List Char) : Option (Header × Trailer) := do
  let (header, cs) ← Header.read? cs
  let trailer ← Trailer.longest? cs
  some (header, trailer)

/-- The reading with the longest file reference and, among these, the longest message. -/
def longest? : List Char → Option Reading
  | [] => none
  | c :: cs =>
    if c = '\n' then none
    else match longest? cs with
      | some r => some { r with file := c :: r.file }
      | none => (afterFile? cs).map fun (header, trailer) => ⟨[c], header, trailer⟩

end Reading

end ProjectLint.Report
