import ProjectLint.Proofs.Fallible
import ProjectLint.Proofs.Report.HiddenHeader
import ProjectLint.Proofs.Report.Line
import ProjectLint.Report.Basic

/-!
# Reading back what a linter writes

The report of written findings lists them again, in order, each with its own line, column, severity
and message, exactly as long as no message hides a header. In the compact form such a message cannot
be told from a longer file reference: two findings can have the same line.

## Main results

* `Finding.Plain.read_render_iff`: what the line of a finding is.
* `Finding.report_of_rendered`: the report of the lines of several findings.
* `Finding.not_forall_report_of_rendered`: not every list of findings can be read back.
-/

namespace ProjectLint.Finding

open Text Report

/-! ### One line -/

theorem isBlank_eq_false_of_all {cs : List Char} (h : (cs.all fun c => !isBlank c) = true) :
    ∀ c ∈ cs, isBlank c = false := by
  simpa using h

namespace Plain

variable {f : Finding}

/-- A line ends with its locator, so no carriage return at its end is dropped. -/
theorem core_render (hf : f.Plain) : Line.core f.render = f.render := by
  rw [Line.core_eq_dropLastWhile hf.lineFeed_notMem_render]
  refine List.rdropWhile_eq_self_iff.mpr fun hne hr => ?_
  have hlast : f.render.getLast hne = f.locator.getLast hf.locator_ne_nil := by
    simp [render, hf.locator_ne_nil]
  have hmem : '\r' ∈ f.locator := by
    rw [hlast, decide_eq_true_eq] at hr
    exact hr ▸ List.getLast_mem _
  exact hf.notMem_locator rfl hmem

/-- The line of a finding is never skipped. -/
theorem read_render_ne_skipped (hf : f.Plain) (text : String) :
    Line.read (String.ofList f.render) ≠ .ok (.skipped text) := by
  rw [ne_eq, Line.read_eq_skipped_iff, String.toList_ofList, hf.core_render]
  exact fun h => h.2 f.reading hf.valid_reading f.text_reading

/-- **The line of a finding is read as this finding**, unless the message hides a header. -/
theorem read_render_iff (hf : f.Plain) :
    (∃ file locator,
      Line.read (String.ofList f.render) = .ok (.finding f.diagnostic file locator)) ↔
      ¬ HidesHeader f.message := by
  have hcore : Line.core (String.ofList f.render).toList = f.render := by
    rw [String.toList_ofList, hf.core_render]
  constructor
  · rintro ⟨file, locator, hread⟩ hhidden
    obtain ⟨s, hs, hst, hlen⟩ := hf.exists_longer_iff.mpr hhidden
    obtain ⟨r, hr, -⟩ := Reading.exists_longest?_of_valid hs
    rw [hst, Reading.longest?_eq_some_iff] at hr
    have hlonger : f.file.length < r.file.length := by
      rcases hr.longest s hs hst with hlt | ⟨heq, -⟩
      · exact hlen.trans hlt
      · exact hlen.trans_eq heq
    rw [Line.read_eq_ofReading (hcore.symm ▸ hr), Line.ofReading_eq_ok_iff] at hread
    obtain ⟨-, -, hfinding⟩ := hread
    have hmessage : f.message = r.trailer.message :=
      String.ofList_injective (congrArg Diagnostic.message (Line.finding.inj hfinding).1)
    exact (hf.length_message_lt hr.valid hr.text hlonger).ne (congrArg List.length hmessage.symm)
  · intro h
    have hr := hf.isLongest_reading_iff.mpr h
    refine ⟨String.ofList f.file, String.ofList f.locator, ?_⟩
    rw [Line.read_eq_ofReading (hcore.symm ▸ hr), Line.ofReading_eq_ok_iff]
    exact ⟨hf.line, hf.column,
      by simp [diagnostic, reading, header, trailer, Numeral.value_toDigits]⟩

end Plain

/-! ### Several lines -/

theorem lines_renderAll {fs : List Finding} (hne : fs ≠ []) (h : ∀ f ∈ fs, f.Plain) :
    Text.lines (renderAll fs) = fs.map render := by
  refine List.splitOn_intercalate '\n' ?_ (by simpa using hne)
  simp only [List.mem_map, forall_exists_index, and_imp, forall_apply_eq_imp_iff₂]
  exact fun f hf => (h f hf).lineFeed_notMem_render

/-- Each line is a finding, and it is the finding that was written exactly if the message hides no
header. -/
theorem forall₂_of_mapM_read_render {fs : List Finding} (h : ∀ f ∈ fs, f.Plain)
    {ls : List Line}
    (hls : ((fs.map render).mapM fun cs => Line.read (String.ofList cs)) = .ok ls) :
    List.Forall₂ (fun f d => d = f.diagnostic ↔ ¬ HidesHeader f.message) fs
      (Report.ofLines ls).diagnostics := by
  have hall := List.forall₂_map_left_iff.mp (mapM_eq_ok_iff.mp hls)
  clear hls
  induction hall with
  | nil => exact .nil
  | @cons f l fs ls hl _ ih =>
    obtain ⟨hf, hfs⟩ := List.forall_mem_cons.mp h
    cases l with
    | skipped text => exact absurd hl (hf.read_render_ne_skipped text)
    | finding d file locator =>
      have hd : d = f.diagnostic ↔ ¬ HidesHeader f.message := by
        rw [← hf.read_render_iff, hl]
        simp
      exact .cons hd (ih hfs)

/-- Lines whose messages hide no header are read as the findings that were written. -/
theorem mapM_read_render : ∀ {fs : List Finding}, (∀ f ∈ fs, f.Plain) →
    (∀ f ∈ fs, ¬ HidesHeader f.message) →
      (((fs.map render).mapM fun cs => Line.read (String.ofList cs)).map Report.ofLines) =
        .ok ⟨fs.map diagnostic⟩
  | [], _, _ => rfl
  | f :: fs, h, hhidden => by
    obtain ⟨hf, hfs⟩ := List.forall_mem_cons.mp h
    obtain ⟨hfm, hfsm⟩ := List.forall_mem_cons.mp hhidden
    obtain ⟨file, locator, hl⟩ := hf.read_render_iff.mpr hfm
    have ih := mapM_read_render hfs hfsm
    cases hrest : (fs.map render).mapM fun cs => Line.read (String.ofList cs) with
    | error e => simp [hrest, Except.map] at ih
    | ok rest =>
      have hds : rest.filterMap Line.diagnostic? = fs.map diagnostic := by
        simpa [hrest, Except.map, Report.ofLines] using ih
      simp [List.mapM_cons, hl, hrest, Except.map, bind, Except.bind, pure, Except.pure,
        Report.ofLines, Line.diagnostic?, hds]

/-- The report of the lines of findings, of which there may be none. -/
theorem ofOutput_renderAll {fs : List Finding} (h : ∀ f ∈ fs, f.Plain) :
    Report.ofOutput (String.ofList (renderAll fs)) =
      ((fs.map render).mapM fun cs => Line.read (String.ofList cs)).map Report.ofLines := by
  cases fs with
  | nil => decide +kernel
  | cons f fs =>
    rw [Report.ofOutput, Report.lines, String.toList_ofList, lines_renderAll (by simp) h]

theorem position_diagnostic (f : Finding) :
    f.diagnostic.position = ⟨f.line - 1, f.column - 1⟩ := by
  simp only [diagnostic, Diagnostic.position, Position.mk.injEq]
  omega

/-- **Findings are read back from their lines** as long as no message hides a header: the report
lists them in order, each with its own line, column, severity and message, and counts their
positions from zero. Every report that is given has one diagnostic for each finding, and it is the
one of the finding exactly if the message of this finding hides no header. -/
theorem report_of_rendered {fs : List Finding} (h : ∀ f ∈ fs, f.Plain) :
    ((∀ f ∈ fs, ¬ HidesHeader f.message) →
      ∃ report, Report.ofOutput (String.ofList (renderAll fs)) = .ok report ∧
        report.diagnostics = fs.map diagnostic ∧
        report.problems.map Problem.position = fs.map fun f => ⟨f.line - 1, f.column - 1⟩) ∧
    ∀ report, Report.ofOutput (String.ofList (renderAll fs)) = .ok report →
      List.Forall₂ (fun f d => d = f.diagnostic ↔ ¬ HidesHeader f.message) fs
        report.diagnostics := by
  rw [ofOutput_renderAll h]
  refine ⟨fun hhidden => ?_, fun report hreport => ?_⟩
  · refine ⟨_, mapM_read_render h hhidden, rfl, ?_⟩
    simp [Report.problems, position_diagnostic]
  · cases hls : (fs.map render).mapM fun cs => Line.read (String.ofList cs) with
    | error e => simp [hls, Except.map] at hreport
    | ok ls =>
      obtain rfl : Report.ofLines ls = report := by
        simpa [hls, Except.map] using hreport
      exact forall₂_of_mapM_read_render h hls

/-- A header in a file reference and almost a header in a message do no harm. -/
theorem report_of_header_in_file :
    let fs : List Finding :=
      [⟨"a: line 1, col 1, Error - b c".toList, 20, 0, "Warning".toList,
          "d: line 1, col 1 - e".toList, "(rule)".toList⟩,
        ⟨": line".toList, 0, 7, "note:".toList, " - ".toList, ":".toList⟩]
    (∀ f ∈ fs, f.Plain) ∧ (∀ f ∈ fs, ¬ HidesHeader f.message) ∧
      ∃ report, Report.ofOutput (String.ofList (renderAll fs)) = .ok report ∧
        report.diagnostics =
          [⟨.warning, 20, 0, "d: line 1, col 1 - e"⟩, ⟨.other, 0, 7, " - "⟩] ∧
        report.problems.map Problem.position = [⟨19, 0⟩, ⟨0, 6⟩] := by
  intro fs
  have hplain : ∀ f ∈ fs, f.Plain := by
    simp only [fs, List.forall_mem_cons]
    refine ⟨?_, ?_, by simp⟩ <;> constructor <;>
      first | exact isBlank_eq_false_of_all (by decide +kernel) | decide +kernel
  have hhidden : ∀ f ∈ fs, ¬ HidesHeader f.message := by
    decide +kernel
  obtain ⟨report, hreport, hds, hpositions⟩ := (report_of_rendered hplain).1 hhidden
  exact ⟨hplain, hhidden, report, hreport, by rw [hds]; decide +kernel, hpositions⟩

/-- **Not every finding can be read back.** A message that hides a header makes a line that is also
the line of another finding, with a longer file reference. -/
theorem not_forall_report_of_rendered :
    (¬ ∀ fs : List Finding, (∀ f ∈ fs, f.Plain) →
      Report.ofOutput (String.ofList (renderAll fs)) = .ok ⟨fs.map diagnostic⟩) ∧
    ∃ f g : Finding, f.Plain ∧ g.Plain ∧ f.render = g.render ∧ f.diagnostic ≠ g.diagnostic := by
  let f : Finding :=
    ⟨['a'], 1, 1, "Error".toList, "b: line 2, col 3, Warning - c".toList, ['r']⟩
  let g : Finding :=
    ⟨"a: line 1, col 1, Error - b".toList, 2, 3, "Warning".toList, ['c'], ['r']⟩
  have hf : f.Plain := by
    constructor <;> first | exact isBlank_eq_false_of_all (by decide +kernel) | decide +kernel
  have hg : g.Plain := by
    constructor <;> first | exact isBlank_eq_false_of_all (by decide +kernel) | decide +kernel
  have hrender : f.render = g.render := by
    decide +kernel
  have hdiagnostic : f.diagnostic ≠ g.diagnostic := by
    decide +kernel
  refine ⟨fun h => ?_, f, g, hf, hg, hrender, hdiagnostic⟩
  have hfs := h [f] (by simpa using hf)
  have hgs := h [g] (by simpa using hg)
  have hlines : renderAll [f] = renderAll [g] := by
    simp [renderAll, hrender]
  rw [hlines, hgs] at hfs
  exact hdiagnostic (by simpa using hfs.symm)

end ProjectLint.Finding
