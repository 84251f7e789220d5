import ProjectLint.Proofs.CommandLine.Format
import ProjectLint.Proofs.CommandLine.Misuse
import ProjectLint.Proofs.CommandLine.Presented
import ProjectLint.Proofs.Session.Outcome

/-!
# Runs that check a file

A run that gets past its configuration and ends with an exit status has checked a file, and shows
the outcome of the check. The exit status follows from the outcome, and so does what is printed:
nothing if the check failed, and otherwise the diagnostics in the format that is asked for. Neither
depends on the exit status of the linter.

## Main definitions

* `Behaviour.withoutStatus`: a behaviour whose exit status is not told.
* `CommandLine.Shows`: a run shows the outcome of a check.

## Main results

* `run_of_lint`: a run that checks a file shows the outcome of the check, in either format.
-/

namespace ProjectLint

open Execution (Behaviour)

/-- A behaviour whose exit status is not told. -/
def Execution.Behaviour.withoutStatus : Behaviour → Behaviour
  | .refused cause => .refused cause
  | .starts child => .starts { child with status := none }

namespace Session

/-- What a check comes to does not depend on the exit status that its run ends with. -/
theorem conclude_withoutStatus (linter : Linter) (file : String) (q : Execution.Request)
    (l : Option Execution.Limit) (b : Behaviour) :
    (conclude (lintOutcome linter file) (Execution.run q l .none b.withoutStatus).ending).value =
      (conclude (lintOutcome linter file) (Execution.run q l .none b).ending).value := by
  cases b with
  | refused cause => rfl
  | starts child =>
    rw [Execution.Behaviour.withoutStatus]
    cases hfault : q.fault? with
    | some e => rw [Execution.ending_of_fault hfault, Execution.ending_of_fault hfault]
    | none =>
      have hwaited : Execution.Child.waited { child with status := none } l .none =
          child.waited l .none := rfl
      have houtput : (({ child with status := none } : Execution.Child).result q.capture).output =
          (child.result q.capture).output := rfl
      rw [Execution.ending_of_starts hfault, Execution.ending_of_starts hfault, hwaited]
      cases child.waited l .none with
      | ended => simp only [conclude, seen, lintOutcome, houtput]
      | _ => rfl

/-- The outcome of a check does not depend on the exit status of the linter. -/
theorem perform_lint_congr {s : Session} {w : World} {root file : String} {runtime : Option String}
    {behaviours behaviours' : List Behaviour}
    (h : (nextBehaviour behaviours').withoutStatus = (nextBehaviour behaviours).withoutStatus) :
    (s.perform w (.lint root file runtime) behaviours').answer =
      (s.perform w (.lint root file runtime) behaviours).answer := by
  rcases hfound : (s.contextFor w root).value with ⟨e | c, s'⟩
  · cases e with
    | unusable r reason =>
      rw [(perform_of_refused file runtime behaviours' hfound).1,
        (perform_of_refused file runtime behaviours hfound).1]
    | file e => rw [perform_lint_of_file hfound, perform_lint_of_file hfound]
  · rw [(perform_lint_of_ok file runtime behaviours' hfound).1,
      (perform_lint_of_ok file runtime behaviours hfound).1, lintRun, lintRun,
      ← conclude_withoutStatus _ _ _ _ (nextBehaviour behaviours'), h, conclude_withoutStatus]

/-- A check that ends well has run the linter to its end, and its report is that of the output. -/
theorem report_of_perform_lint {s : Session} {w : World} {root file : String}
    {runtime : Option String} {behaviours : List Behaviour} {o : LintOutcome}
    (h : (s.perform w (.lint root file runtime) behaviours).answer = .lint (.ok o))
    (ho : o.status = .ok) : ∃ child, nextBehaviour behaviours = .starts child ∧
      Report.ofOutput (Execution.decode child.output) = .ok o.report := by
  rcases hfound : (s.contextFor w root).value with ⟨e | c, s'⟩
  · cases e with
    | unusable r reason =>
      rw [(perform_of_refused file runtime behaviours hfound).1] at h
      cases h
      cases ho
    | file e =>
      rw [perform_lint_of_file hfound] at h
      cases h
  · obtain ⟨hanswer, hrun, -⟩ := perform_lint_of_ok file runtime behaviours hfound
    have ho' : (conclude (lintOutcome s.settings.linter file)
        (s.lintRun w c file runtime (nextBehaviour behaviours)).ending).value = .ok o := by
      simpa [hanswer] using h
    obtain ⟨result, hseen⟩ := seen_of_conclude ho'
    obtain ⟨hfit, hgoes⟩ := goes_of_seen (not_untold_limit s.settings) hseen
    have htruthful := truthful_of_goes (by rw [hfound]) (hgoes _ hfit) rfl ho'
    obtain ⟨-, child, -, hchild, -, hreport⟩ := htruthful.of_ok ho
    exact ⟨child, hchild, hreport⟩

end Session

namespace CommandLine

open Session (LintOutcome nextBehaviour)

/-- A run shows the outcome of a check of a file. If the check failed the exit status says so, and
nothing is printed. Otherwise the exit status says whether there are diagnostics, and they are
printed in a format. -/
structure Shows (format : Format) (file : String) (o : LintOutcome) (told : Transcript) : Prop where
  exit : ∃ status, told.exit = .ok status ∧
    status.code = if o.status ≠ .ok then 2 else if o.report.diagnostics = [] then 0 else 1
  output_of_failed : o.status ≠ .ok → told.output = ""
  output_of_ok : o.status = .ok → Presents file o.report.diagnostics told.output format

variable {w : World} {words words' : List String} {behaviours behaviours' : List Behaviour}
  {arguments : Arguments} {project : ProjectOptions} {file : String} {format : Option Format}
  {root path : Path} {settings : Settings}

theorem run_lint (hread : Arguments.read words = .ok arguments)
    (hversion : arguments.version = false)
    (hcommand : arguments.command = some (.lint project file format))
    (hroot : resolved w ((given project.root).getD ".") = .ok root)
    (hload : (loadSettings w root project).value = .ok settings) :
    let told := run w words behaviours
    let ending :=
      lint (Session.ofSettings w settings) w root.text file (format.getD .json) behaviours
    told.exit = ending.exit ∧ told.output = ending.output := by
  intro told ending
  have htold : told = (execute w (.lint project file format) behaviours).transcript
      arguments.verbosity.threshold := run_of_command hread hversion hcommand
  have hexecute : execute w (.lint project file format) behaviours =
      ending.after [] (loadSettings w root project).log :=
    @execute_of_ok w (.lint project file format) behaviours root hroot settings hload
  rw [htold, hexecute]
  exact ⟨rfl, rfl⟩

theorem lint_of_answer {s : Session} {format : Format} {root : String}
    {result : Except Session.Fault LintOutcome} (hpath : resolved w file = .ok path)
    (hanswer : (s.perform w (.lint root path.text none) behaviours).answer = .lint result) :
    (lint s w root file format behaviours).exit = (lintEnding format path.text result).exit ∧
      (lint s w root file format behaviours).output =
        (lintEnding format path.text result).output := by
  simp only [lint, hpath, hanswer]
  exact ⟨rfl, rfl⟩

/-- How a check ends shows its outcome, in either format. -/
theorem shows_lintEnding {format : Format} {path : String} {o : LintOutcome} {told : Transcript}
    (hreport : o.status = .ok → ∃ output, Report.ofOutput output = .ok o.report)
    (hexit : told.exit = (lintEnding format path (.ok o)).exit)
    (houtput : told.output = (lintEnding format path (.ok o)).output) :
    Shows format path o told := by
  by_cases ho : o.status = .ok
  · have hok : o.isOk = true := decide_eq_true ho
    obtain ⟨output, hread⟩ := hreport ho
    simp only [lintEnding, hok, if_true] at hexit houtput
    refine ⟨⟨_, hexit, ?_⟩, fun h => absurd ho h, fun _ => ?_⟩
    · rw [if_neg (not_not.mpr ho)]
      simp only [Report.length, List.length_eq_zero_iff]
      split <;> rfl
    · rw [houtput]
      exact presents_presented format path hread
  · have hok : o.isOk = false := decide_eq_false ho
    obtain ⟨hnothing, hfailed⟩ := lintEnding_failed format path hok
    refine ⟨⟨.toolFailed, hexit.trans hfailed, ?_⟩, fun _ => houtput.trans hnothing,
      fun h => absurd h ho⟩
    rw [if_pos ho]
    rfl

/-- **A run that checks a file shows the outcome of the check.** Let a run get past its
configuration and end with an exit status. It has checked the file in a new session, and shows the
outcome; if the check ended well its report is that of what the linter wrote. Every other run in
this world whose command line asks for the same check shows this outcome too, in the format that it
asks for, and whatever exit status the linter ends with. A command line that differs only in the
values of the option for the format asks for the same check. -/
theorem run_of_lint (w : World) (words : List String) (behaviours : List Behaviour)
    (arguments : Arguments) (project : ProjectOptions) (file : String) (format : Option Format)
    (root : Path) (settings : Settings) (status : ExitStatus)
    (hread : Arguments.read words = .ok arguments) (hversion : arguments.version = false)
    (hcommand : arguments.command = some (.lint project file format))
    (hroot : resolved w ((given project.root).getD ".") = .ok root)
    (hload : (loadSettings w root project).value = .ok settings)
    (hends : (run w words behaviours).exit = .ok status) :
    ∃ path o, resolved w file = .ok path ∧
      ((Session.ofSettings w settings).perform w (.lint root.text path.text none)
        behaviours).answer = .lint (.ok o) ∧
      (o.status = .ok → ∃ child, nextBehaviour behaviours = .starts child ∧
        Report.ofOutput (Execution.decode child.output) = .ok o.report) ∧
      Shows (format.getD .json) path.text o (run w words behaviours) ∧
      (∀ words', SameButFormat words words' → ∃ format', Arguments.read words' =
        .ok { arguments with command := some (.lint project file format') }) ∧
      ∀ words' format' behaviours',
        Arguments.read words' =
          .ok { arguments with command := some (.lint project file format') } →
        (nextBehaviour behaviours').withoutStatus = (nextBehaviour behaviours).withoutStatus →
        Shows (format'.getD .json) path.text o (run w words' behaviours') := by
  have hexit : .ok status = (lint (Session.ofSettings w settings) w root.text file
      (format.getD .json) behaviours).exit :=
    hends.symm.trans (run_lint hread hversion hcommand hroot hload).1
  obtain ⟨path, hpath⟩ : ∃ path, resolved w file = .ok path := by
    rcases hpath : resolved w file with e | path
    · simp only [lint, hpath] at hexit
      cases hexit
    · exact ⟨path, rfl⟩
  obtain ⟨result, hanswer⟩ := Session.perform_lint (Session.ofSettings w settings) w root.text
    path.text none behaviours
  obtain ⟨o, rfl⟩ : ∃ o, result = .ok o := by
    rcases result with e | o
    · rw [(lint_of_answer hpath hanswer).1] at hexit
      cases hexit
    · exact ⟨o, rfl⟩
  have hreport := Session.report_of_perform_lint hanswer
  have hshows : ∀ words' format' behaviours', Arguments.read words' =
      .ok { arguments with command := some (.lint project file format') } →
      (nextBehaviour behaviours').withoutStatus = (nextBehaviour behaviours).withoutStatus →
      Shows (format'.getD .json) path.text o (run w words' behaviours') := by
    intro words' format' behaviours' hread' hbehaviours
    have hanswer' := (Session.perform_lint_congr hbehaviours).trans hanswer
    obtain ⟨hexit', houtput'⟩ := run_lint hread' hversion rfl hroot hload
    obtain ⟨hending, hprinted⟩ := lint_of_answer hpath hanswer'
    refine shows_lintEnding (fun ho => ?_) (hexit'.trans hending) (houtput'.trans hprinted)
    obtain ⟨child, -, hchild⟩ := hreport ho
    exact ⟨_, hchild⟩
  refine ⟨path, o, hpath, hanswer, hreport, hshows words format behaviours ?_ rfl,
    fun words' h => Arguments.read_sameBut h hread hcommand, hshows⟩
  rw [hread, ← hcommand]

/-- A check of a file with one finding, as text and as JSON. The line of the finding has the number
zero, and the linter ends with a status of its own each time. -/
theorem run_of_lint_finding :
    let ascii (text : String) : List UInt8 := text.toList.map fun c => UInt8.ofNat c.toNat
    let w : World := .ofFiles "/p" (.set .empty "HOME" "/h") [("/p/a.js", .file [] false)]
    let output := ascii "a.js: line 0, col 7, Error - x (y)"
    let behaviours (status : Option Int) : List Behaviour :=
      [.starts ⟨.ends, output, [], status, false, 0⟩]
    let words (format : Format) := ["lint", "a.js", "--format", format.name]
    let report : Report := ⟨[⟨.error, 0, 7, "x"⟩]⟩
    ∃ o : LintOutcome, o.report = report ∧
      Shows .text "/p/a.js" o (run w (words .text) (behaviours (some 2))) ∧
      Shows .json "/p/a.js" o (run w (words .json) (behaviours none)) ∧
      (run w (words .text) (behaviours (some 2))).output = "/p/a.js:0:7: ERROR: x\n" ∧
      Text.Json.read? (run w (words .json) (behaviours none)).output =
        some (.object [("errors", .list [.object
          [("type", .text "problem_type_error"), ("message", .text "ERROR: x"),
            ("pos", .object [("line", .whole 0), ("ch", .whole 6)])]])]) := by
  intro ascii w output behaviours words report
  let project : ProjectOptions := { root := none, runtime := none, config := none }
  let arguments (format : Format) : Arguments :=
    { version := false
      verbosity := { quiet := false, debug := false, verbose := false }
      command := some (.lint project "a.js" (some format)) }
  have hread (format : Format) : Arguments.read (words format) = .ok (arguments format) := by
    cases format <;> decide +kernel
  have hroot : resolved w "." = .ok (Path.ofText "/p") := by
    decide +kernel
  have hload : (loadSettings w (Path.ofText "/p") project).value = .ok {} := by
    decide +kernel
  have hends : (run w (words .text) (behaviours (some 2))).exit = .ok .findings := by
    decide +kernel
  have hprinted :
      (run w (words .text) (behaviours (some 2))).output = "/p/a.js:0:7: ERROR: x\n" := by
    decide +kernel
  obtain ⟨path, o, hpath, hanswer, hreport, htext, -, hshows⟩ :=
    run_of_lint w (words .text) (behaviours (some 2)) (arguments .text) project "a.js" _ _ {} _
      (hread .text) rfl rfl hroot hload hends
  obtain rfl : Path.ofText "/p/a.js" = path :=
    Except.ok.inj ((by decide +kernel : _ = resolved w "a.js").trans hpath)
  have hok : o.status = .ok := by
    obtain ⟨status, hexit, hcode⟩ := htext.exit
    obtain rfl : .findings = status := Except.ok.inj (hends.symm.trans hexit)
    by_contra hfailed
    rw [if_pos hfailed] at hcode
    cases hcode
  obtain ⟨child, hchild, hchildReport⟩ := hreport hok
  obtain rfl : _ = child := Behaviour.starts.inj hchild
  have hread' : Report.ofOutput (Execution.decode output) = .ok report := by
    decide +kernel
  have ho : o.report = report := Except.ok.inj (hchildReport.symm.trans hread')
  have hjson := hshows (words .json) (some .json) (behaviours none) (hread .json) rfl
  obtain ⟨entries, hentries, hdocument⟩ := hjson.output_of_ok hok
  rw [ho] at hentries
  cases hentries with
  | cons hentry hnone =>
    cases hnone
    obtain ⟨⟨⟩, hline, hch⟩ := hentry
    obtain rfl : _ = 0 := Int.ofNat_inj.mp hline
    obtain rfl : _ = 6 := Int.ofNat_inj.mp hch
    exact ⟨o, ho, htext, hjson, hprinted, hdocument⟩

end CommandLine

end ProjectLint
