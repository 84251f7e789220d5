import ProjectLint.Execution.Run
import ProjectLint.Proofs.Fallible
import ProjectLint.Proofs.Report.Refusal
import ProjectLint.Proofs.Text.Utf8

/-!
# Lines of bytes

The output of a linter is a list of bytes, and it is read as a text before the text is cut into
lines. A line can end in carriage returns, and it can be ill-formed anywhere: in particular, a
character can be begun just in front of the line's end. Neither is of consequence for another line,
and carriage returns are of no consequence at all.

## Main definitions

* `ByteLine`: the bytes of a line, and the number of carriage returns that follow them.
* `ByteLine.read`: what the line is by itself.
* `ByteLine.output`: the output that consists of lines.

## Main results

* `ofOutput_output`: the report of an output is made of what each line is by itself.
* `ofOutput_eq_of_read`: no line disturbs another.
-/

namespace ProjectLint.Report

open Execution (decode)
open Text

/-! ### What a report is made of -/

/-- Only the core of a line matters for its diagnostic. -/
theorem Line.map_diagnostic?_read {text text' : String} (h : core text.toList = core text'.toList) :
    (read text).map diagnostic? = (read text').map diagnostic? := by
  rw [read, read, h]
  cases Reading.longest? (core text'.toList) <;> rfl

/-- Carriage returns at the end are no part of the core. -/
theorem Line.core_append_replicate (cs : List Char) (k : Nat) :
    core (cs ++ List.replicate k '\r') = core cs := by
  have hdrop : dropLastWhile (· = '\r') (cs ++ List.replicate k '\r') =
      dropLastWhile (· = '\r') cs := by
    rw [dropLastWhile, List.reverse_append, List.reverse_replicate,
      List.dropWhile_append_of_pos (by simp), dropLastWhile]
  rw [core, core, hdrop]

/-- A report is made of the diagnostics of its lines. -/
theorem map_ofLines_mapM {α : Type} (f : α → Except Numeral.TooLong Line) (xs : List α) :
    (xs.mapM f).map ofLines =
      (xs.mapM fun x => (f x).map Line.diagnostic?).map fun ds => ⟨ds.filterMap id⟩ := by
  rw [mapM_map_eq]
  cases xs.mapM f with
  | error e => rfl
  | ok ms => simp [Except.map, ofLines, List.filterMap_map]

/-! ### Lines of bytes -/

/-- A line of bytes, with the number of carriage returns at its end. There may be more of them
among its own bytes. -/
structure ByteLine where
  bytes : List UInt8
  returns : Nat
  lineFeed_notMem : 0x0a ∉ bytes

namespace ByteLine

/-- All bytes of a line. -/
def printed (l : ByteLine) : List UInt8 := l.bytes ++ List.replicate l.returns 0x0d

/-- What a line is by itself, without the carriage returns at its end. -/
def read (l : ByteLine) : Except Numeral.TooLong Line := Line.read (decode l.bytes)

/-- The output that consists of lines, with a line feed between each two. -/
def output (ls : List ByteLine) : List UInt8 := [0x0a].intercalate (ls.map printed)

theorem lossy_printed (l : ByteLine) :
    Utf8.lossy l.printed = Utf8.lossy l.bytes ++ List.replicate l.returns '\r' := by
  have hreturns : ∀ b ∈ List.replicate l.returns (0x0d : UInt8), b < 0x80 := fun b hb =>
    List.eq_of_mem_replicate hb ▸ (by decide)
  rw [printed, Utf8.lossy_append _ fun a ha => hreturns a (List.mem_of_head? ha),
    Utf8.lossy_ascii hreturns, List.map_replicate]
  rfl

theorem lineFeed_notMem_lossy (l : ByteLine) : '\n' ∉ Utf8.lossy l.printed := by
  have hbytes : '\n' ∉ Utf8.lossy l.bytes :=
    mt (Utf8.mem_lossy_iff (a := 0x0a) (by decide) (by decide)).mp l.lineFeed_notMem
  simp [lossy_printed, hbytes]

/-- The lines of the text are the texts of the lines. -/
theorem lines_output {ls : List ByteLine} (hne : ls ≠ []) :
    Text.lines (decode (output ls)).toList = ls.map fun l => Utf8.lossy l.printed := by
  have hlossy : Utf8.lossy (output ls) =
      ['\n'].intercalate (ls.map fun l => Utf8.lossy l.printed) := by
    rw [output, Utf8.lossy_intercalate (by decide), List.map_map]
    rfl
  rw [decode, String.toList_ofList, hlossy]
  refine List.splitOn_intercalate '\n' ?_ (by simpa using hne)
  simp only [List.mem_map, forall_exists_index, and_imp, forall_apply_eq_imp_iff₂]
  exact fun l _ => l.lineFeed_notMem_lossy

/-- The report of an output is made of what each of its lines is by itself. -/
theorem ofOutput_output (ls : List ByteLine) :
    ofOutput (decode (output ls)) = (ls.mapM read).map ofLines := by
  cases hls : ls with
  | nil => decide +kernel
  | cons l ls =>
    rw [← hls, ofOutput, lines, lines_output (by simp [hls]), List.mapM_map, Function.comp_def]
    have hdiagnostic (l : ByteLine) :
        (Line.read (String.ofList (Utf8.lossy l.printed))).map Line.diagnostic? =
          l.read.map Line.diagnostic? :=
      Line.map_diagnostic?_read (by simp [decode, lossy_printed, Line.core_append_replicate])
    rw [map_ofLines_mapM, map_ofLines_mapM, funext hdiagnostic]

/-- **No line of an output disturbs another, whatever bytes it is made of.** If each line is read
by itself, then the output has a report, and its diagnostics are those of the lines in their order,
none or one for each line. The numbers of carriage returns at the ends of the lines make no
difference. -/
theorem ofOutput_eq_of_read (ls : List ByteLine) (hread : ∀ l ∈ ls, ∃ m, l.read = .ok m) :
    ∃ ms, List.Forall₂ (fun l m => l.read = .ok m) ls ms ∧
      ofOutput (decode (output ls)) = .ok ⟨ms.filterMap Line.diagnostic?⟩ ∧
      ∀ ls' : List ByteLine, ls'.map bytes = ls.map bytes →
        ofOutput (decode (output ls')) = ofOutput (decode (output ls)) := by
  cases hms : ls.mapM read with
  | error e =>
    obtain ⟨l, hl, e', he'⟩ := (exists_error_of_mapM read ls).mp ⟨e, hms⟩
    obtain ⟨m, hm⟩ := hread l hl
    simp [hm] at he'
  | ok ms =>
    refine ⟨ms, mapM_eq_ok_iff.mp hms, ?_, fun ls' hls' => ?_⟩
    · rw [ofOutput_output, hms]
      rfl
    · have hmapM (ls : List ByteLine) :
          ls.mapM read = (ls.map bytes).mapM fun bytes => Line.read (decode bytes) := by
        rw [List.mapM_map]
        rfl
      rw [ofOutput_output, ofOutput_output, hmapM, hmapM, hls']

/-- The first line ends in the middle of a character, just in front of a carriage return; the second
one begins in the middle of a character. -/
theorem ofOutput_of_truncated :
    let ascii (text : String) : List UInt8 := text.toList.map fun c => UInt8.ofNat c.toNat
    let first : ByteLine :=
      ⟨ascii "a.js: line 1, col 2, Error - x y" ++ [0xe2, 0x82], 1, by decide +kernel⟩
    let second : ByteLine :=
      ⟨[0x9f, 0x98] ++ ascii "b.js: line 3, col 4, Warning - z w", 0, by decide +kernel⟩
    (∀ l ∈ [first, second], ∃ m, l.read = .ok m) ∧
      ofOutput (decode (output [first, second])) =
        .ok ⟨[⟨.error, 1, 2, "x"⟩, ⟨.warning, 3, 4, "z"⟩]⟩ := by
  intro ascii first second
  have hfirst : first.read = .ok (.finding ⟨.error, 1, 2, "x"⟩ "a.js" "y\ufffd") := by
    decide +kernel
  have hsecond :
      second.read = .ok (.finding ⟨.warning, 3, 4, "z"⟩ "\ufffd\ufffdb.js" "w") := by
    decide +kernel
  have hread : ∀ l ∈ [first, second], ∃ m, l.read = .ok m := by
    simp [hfirst, hsecond]
  obtain ⟨ms, hms, houtput, -⟩ := ofOutput_eq_of_read [first, second] hread
  obtain rfl : [_, _] = ms := by
    simpa [List.forall₂_cons_left_iff, hfirst, hsecond, eq_comm] using hms
  exact ⟨hread, houtput⟩

end ByteLine

end ProjectLint.Report
