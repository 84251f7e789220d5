import Mathlib.Data.List.DropRight
import ProjectLint.Proofs.Report.Reading
import ProjectLint.Report.Line

/-!
# What a report line is

A line without a line feed is skipped exactly when what is left of it without its last carriage
returns has no reading, and is otherwise the finding of the longest reading. It is refused only for
a number of that reading that has too many digits; another reading with shorter numbers is not
tried.

## Main results

* `Line.ofReading_eq_ok_iff`, `Line.ofReading_eq_error_iff`: what becomes of a reading.
* `Line.read_eq_longest_reading`: what becomes of a line.
-/

namespace ProjectLint.Report.Line

open Text

/-! ### The finding of a reading -/

/-- A reading is a finding exactly when neither of its numbers is too long. -/
theorem ofReading_eq_ok_iff {r : Reading} {l : Line} :
    ofReading r = .ok l ↔
      r.header.line.length ≤ Numeral.maxDigits ∧ r.header.column.length ≤ Numeral.maxDigits ∧
        l = .finding
          { severity := .ofLabel (String.ofList r.header.label)
            line := Numeral.value r.header.line
            column := Numeral.value r.header.column
            message := String.ofList r.trailer.message }
          (String.ofList r.file) (String.ofList r.trailer.locator) := by
  unfold ofReading Numeral.decimal
  by_cases hl : r.header.line.length ≤ Numeral.maxDigits
  · by_cases hc : r.header.column.length ≤ Numeral.maxDigits
    · simp [hl, hc, bind, Except.bind, pure, Except.pure, eq_comm]
    · simp [hl, hc, bind, Except.bind]
  · simp [hl, bind, Except.bind]

/-- A reading is refused exactly when one of its numbers is too long; of two such numbers the line
is named. -/
theorem ofReading_eq_error_iff {r : Reading} {e : Numeral.TooLong} :
    ofReading r = .error e ↔
      Numeral.maxDigits < r.header.line.length ∧ e = ⟨r.header.line.length⟩ ∨
        r.header.line.length ≤ Numeral.maxDigits ∧
          Numeral.maxDigits < r.header.column.length ∧ e = ⟨r.header.column.length⟩ := by
  unfold ofReading Numeral.decimal
  by_cases hl : r.header.line.length ≤ Numeral.maxDigits
  · by_cases hc : r.header.column.length ≤ Numeral.maxDigits
    · simp [hl, hc, bind, Except.bind, pure, Except.pure, Nat.not_lt.mpr]
    · simp [hl, hc, bind, Except.bind, Nat.not_lt.mpr hl, Nat.lt_of_not_le hc, eq_comm]
  · simp [hl, bind, Except.bind, Nat.lt_of_not_le hl, eq_comm]

/-! ### The text that is cut -/

theorem notMem_dropLastWhile {p : Char → Bool} {c : Char} {cs : List Char} (h : c ∉ cs) :
    c ∉ dropLastWhile p cs :=
  fun hc => h ((List.rdropWhile_prefix p cs).subset hc)

/-- Without line feeds only the carriage returns at the end are no part of a finding. -/
theorem core_eq_dropLastWhile {cs : List Char} (h : '\n' ∉ cs) :
    core cs = dropLastWhile (· = '\r') cs := by
  refine if_neg fun hl => ?_
  exact notMem_dropLastWhile h (List.mem_of_getLast? hl)

/-! ### Whole lines -/

/-- A line is skipped, unchanged, exactly when there is no reading. -/
theorem read_eq_skipped_iff {text s : String} :
    read text = .ok (.skipped s) ↔
      s = text ∧ ∀ r : Reading, r.Valid → r.text ≠ core text.toList := by
  rw [← Reading.longest?_eq_none_iff]
  unfold read
  cases hr : Reading.longest? (core text.toList) with
  | none => simp [eq_comm]
  | some r => simp [ofReading_eq_ok_iff]

theorem read_eq_ofReading {text : String} {r : Reading} (h : r.IsLongest (core text.toList)) :
    read text = ofReading r := by
  rw [read, Reading.longest?_eq_some_iff.mpr h]

/-- A message stays on one line. -/
theorem lineFeed_notMem_message {text : String} {l : Line} (h : read text = .ok l) :
    ∀ d ∈ l.diagnostic?, '\n' ∉ d.message.toList := by
  intro d hd
  rw [read] at h
  split at h
  · obtain rfl : Line.skipped text = l := Except.ok.inj h
    cases hd
  · next r hr =>
    obtain ⟨-, -, rfl⟩ := ofReading_eq_ok_iff.mp h
    obtain rfl : _ = d := Option.some.inj hd
    simpa using (Reading.longest?_eq_some_iff.mp hr).valid.trailer.message

end ProjectLint.Report.Line
