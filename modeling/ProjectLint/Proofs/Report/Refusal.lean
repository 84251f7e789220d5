import Mathlib.Data.List.Basic
import ProjectLint.Proofs.Fallible
import ProjectLint.Proofs.Report.Line
import ProjectLint.Report.Basic

/-!
# Output that is refused

A report is refused, as a whole, for one line whose longest reading has a number with too many
digits.

## Main definitions

* `Reading.Overlong`: a number of a reading has too many digits.

## Main results

* `ofOutput_eq_error_iff`: when a report is refused.
* `Reading.exists_isLongest_of_oneColon`: a line with a single colon has only one header.
-/

namespace ProjectLint.Report

open Text

namespace Reading

/-- A number of a reading has too many digits. -/
def Overlong (r : Reading) : Prop :=
  Numeral.maxDigits < r.header.line.length ∨ Numeral.maxDigits < r.header.column.length

/-- Readings of a line with a single colon have the same header. -/
theorem header_eq_of_oneColon {r s : Reading} (hr : r.Valid) (hs : s.Valid) (he : s.text = r.text)
    (hfile : ':' ∉ r.file) (hlabel : ':' ∉ r.header.label) (htrailer : ':' ∉ r.trailer.text) :
    s.header = r.header := by
  have hgaps : ':' ∉ [r.header.gap₆, '-', r.header.gap₇] := by
    simp [Header.ne_colon_of_isBlank hr.header.gap₆, Header.ne_colon_of_isBlank hr.header.gap₇]
  have hrest : ':' ∉ r.header.middle ++
      (r.header.label ++ [r.header.gap₆, '-', r.header.gap₇]) ++ r.trailer.text := by
    simp only [List.mem_append, not_or]
    exact ⟨⟨Header.colon_notMem_middle hr.header, hlabel, hgaps⟩, htrailer⟩
  have hcolon : r.file ++ ':' :: (r.header.middle ++
      (r.header.label ++ [r.header.gap₆, '-', r.header.gap₇]) ++ r.trailer.text) =
      s.file ++ ':' :: (s.header.middle ++
        (s.header.label ++ [s.header.gap₆, '-', s.header.gap₇]) ++ s.trailer.text) := by
    rw [text, text, Header.text_eq, Header.text_eq] at he
    simpa using he.symm
  obtain ⟨hfiles, -, -⟩ := (List.append_cons_inj_of_notMem hfile hrest).mp hcolon
  rw [text, text, hfiles, List.append_cancel_left_eq] at he
  exact (Header.eq_of_text_append_eq hs.header hr.header he).1

/-- The longest reading of a line with a single colon has the header of any other one. -/
theorem exists_isLongest_of_oneColon {r : Reading} (hr : r.Valid) (hfile : ':' ∉ r.file)
    (hlabel : ':' ∉ r.header.label) (htrailer : ':' ∉ r.trailer.text) :
    ∃ s : Reading, s.IsLongest r.text ∧ s.header = r.header := by
  obtain ⟨s, hs, -⟩ := exists_longest?_of_valid hr
  have hlongest := longest?_eq_some_iff.mp hs
  exact ⟨s, hlongest,
    header_eq_of_oneColon hr hlongest.valid hlongest.text hfile hlabel htrailer⟩

end Reading

/-- A line is refused exactly when a number of its longest reading has too many digits. -/
theorem Line.read_eq_error_iff {text : String} :
    (∃ e, read text = .error e) ↔
      ∃ r : Reading, r.IsLongest (core text.toList) ∧ r.Overlong := by
  simp only [← Reading.longest?_eq_some_iff]
  rw [read]
  cases Reading.longest? (core text.toList) with
  | none => simp
  | some r =>
    simp only [Option.some.injEq, exists_eq_left', ofReading_eq_error_iff, Reading.Overlong]
    by_cases hline : Numeral.maxDigits < r.header.line.length
    · simp [hline]
    · simp [hline, Nat.le_of_not_lt hline]

/-- **A report is refused exactly when one of its lines is.** -/
theorem ofOutput_eq_error_iff {output : String} :
    (∃ e, ofOutput output = .error e) ↔
      ∃ cs ∈ Text.lines output.toList, ∃ r : Reading, r.IsLongest (Line.core cs) ∧ r.Overlong := by
  have hlines : (∃ e, ofOutput output = .error e) ↔ ∃ e, lines output = .error e := by
    rw [ofOutput]
    cases lines output <;> simp [Except.map]
  rw [hlines, lines, exists_error_of_mapM]
  simp only [Line.read_eq_error_iff, String.toList_ofList]

end ProjectLint.Report
