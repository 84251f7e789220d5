import ProjectLint.CommandLine.Run
import ProjectLint.Proofs.Config.Shown
import ProjectLint.Proofs.Fallible
import ProjectLint.Proofs.Report.Json
import ProjectLint.Proofs.Report.Line

/-!
# What a printed report says

A report is printed in one of two formats. As text it has a line for every diagnostic, in order; as
JSON it is one object whose list has an entry for every diagnostic, in order. The lines can be told
apart as long as the path of the file has no line feed, since a message never has one.

## Main definitions

* `CommandLine.IsLine`, `CommandLine.IsEntry`: what a line says of a diagnostic, and what an entry
  does.
* `CommandLine.Presents`: a text says in a format which diagnostics there are.

## Main results

* `presents_presented`: a report is printed so that it can be read.
-/

namespace ProjectLint.CommandLine

open Text

/-- The tag in front of a message of some severity, and the type of its entry. -/
inductive Labels : Severity → String → String → Prop
  | error : Labels .error "ERROR: " "problem_type_error"
  | warning : Labels .warning "WARNING: " "problem_type_warning"
  | other : Labels .other "UNKNOWN: " "problem_type_meta"

/-- A line of text about a diagnostic has the path of the file, the line and the column as the
linter counts them, and the message after its tag. -/
inductive IsLine (file : String) (d : Diagnostic) : String → Prop
  | intro {tag type : String} (h : Labels d.severity tag type) :
    IsLine file d
      (file ++ ":" ++ toString d.line ++ ":" ++ toString d.column ++ ": " ++ (tag ++ d.message))

/-- An entry about a diagnostic has a type, the message after its tag, and the place of the
diagnostic. The place is counted from zero, and is not below zero. -/
inductive IsEntry (d : Diagnostic) : Json → Prop
  | intro {tag type : String} {line ch : Nat} (h : Labels d.severity tag type)
    (hline : (line : Int) = max (d.line - 1) 0) (hch : (ch : Int) = max (d.column - 1) 0) :
    IsEntry d (.object
      [("type", .text type), ("message", .text (tag ++ d.message)),
        ("pos", .object [("line", .whole line), ("ch", .whole ch)])])

/-- A text says in a format which diagnostics there are of a file: as text by a line for each of
them, in order, and as JSON by an entry for each of them, in order. The lines are those between line
feeds if there is none in the path of the file. -/
def Presents (file : String) (ds : List Diagnostic) (output : String) : Format → Prop
  | .text => ∃ ls, List.Forall₂ (IsLine file) ds ls ∧
    output = String.join (ls.map fun l => l ++ "\n") ∧
    ('\n' ∉ file.toList → lines output.toList = ls.map String.toList ++ [[]])
  | .json => ∃ entries, List.Forall₂ IsEntry ds entries ∧
    Json.read? output = some (.object [("errors", .list entries)])

theorem labels (s : Severity) : Labels s s.tag s.problemType := by
  cases s <;> constructor

theorem isLine_diagnosticLine (file : String) (d : Diagnostic) :
    IsLine file d (diagnosticLine file d) := .intro (labels d.severity)

theorem isEntry_problem (d : Diagnostic) : IsEntry d d.problem.entry :=
  .intro (labels d.severity) (by simp [Diagnostic.position]; omega)
    (by simp [Diagnostic.position]; omega)

theorem lines_printed : ∀ ls : List String, (∀ l ∈ ls, '\n' ∉ l.toList) →
    lines (printed ls).toList = ls.map String.toList ++ [[]]
  | [], _ => rfl
  | l :: ls, h => by
    obtain ⟨hl, hls⟩ := List.forall_mem_cons.mp h
    have hprinted : (printed (l :: ls)).toList = l.toList ++ '\n' :: (printed ls).toList := by
      simp [printed]
    rw [hprinted, lines, List.splitOn_append_cons_self_of_not_mem hl, ← lines, lines_printed ls hls]
    rfl

theorem lineFeed_notMem_toString (n : Int) : '\n' ∉ (toString n).toList := by
  intro h
  exact absurd (List.all_eq_true.mp (Value.all_toString n) _ h) (by decide)

theorem lineFeed_notMem_tag (s : Severity) : '\n' ∉ s.tag.toList := by
  cases s <;> decide

theorem diagnosticLine_eq (file : String) (d : Diagnostic) :
    diagnosticLine file d = file ++ ":" ++ toString d.line ++ ":" ++ toString d.column ++ ": " ++
      (d.severity.tag ++ d.message) := rfl

theorem lineFeed_notMem_diagnosticLine {file : String} {d : Diagnostic} (hfile : '\n' ∉ file.toList)
    (hmessage : '\n' ∉ d.message.toList) : '\n' ∉ (diagnosticLine file d).toList := by
  have hline := lineFeed_notMem_toString d.line
  have hcolumn := lineFeed_notMem_toString d.column
  have htag := lineFeed_notMem_tag d.severity
  rw [diagnosticLine_eq]
  simp only [String.toList_append, List.mem_append]
  simp_all

theorem lineFeed_notMem_of_ofOutput {output : String} {r : Report}
    (h : Report.ofOutput output = .ok r) : ∀ d ∈ r.diagnostics, '\n' ∉ d.message.toList := by
  obtain ⟨ls, hls, rfl⟩ := map_eq_ok_iff.mp h
  have hlines := forall_of_mapM_eq_ok (R := fun l => ∀ d ∈ l.diagnostic?, '\n' ∉ d.message.toList)
    hls fun cs _ l => Report.Line.lineFeed_notMem_message
  intro d hd
  obtain ⟨l, hl, hld⟩ := List.mem_filterMap.mp hd
  exact hlines l hl d hld

/-- **A report is printed so that it can be read.** -/
theorem presents_presented (format : Format) (file : String) {output : String} {r : Report}
    (h : Report.ofOutput output = .ok r) :
    Presents file r.diagnostics (presented format file r) format := by
  cases format with
  | text =>
    refine ⟨r.diagnostics.map (diagnosticLine file), ?_, rfl, fun hfile => ?_⟩
    · exact List.forall₂_map_right_iff.mpr
        (List.forall₂_same.mpr fun d _ => isLine_diagnosticLine file d)
    refine lines_printed _ ?_
    simp only [List.forall_mem_map]
    exact fun d hd =>
      lineFeed_notMem_diagnosticLine hfile (lineFeed_notMem_of_ofOutput h d hd)
  | json =>
    have hprinted : presented .json file r = problemsJson r.problems ++ String.ofList ['\n'] := by
      simp [presented, printed, Report.json]
    refine ⟨r.problems.map Problem.entry, ?_, ?_⟩
    · rw [Report.problems, List.map_map]
      exact List.forall₂_map_right_iff.mpr (List.forall₂_same.mpr fun d _ => isEntry_problem d)
    · rw [hprinted]
      exact read?_problemsJson r.problems ['\n'] rfl

end ProjectLint.CommandLine
