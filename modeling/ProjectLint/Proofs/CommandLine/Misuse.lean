import ProjectLint.CommandLine.Run
import ProjectLint.Proofs.Config.Failure

/-!
# Runs whose configuration cannot be loaded

A run loads the configuration of its project before it carries out its command. A mistake of the
user ends the run with an exit status of its own, and with a record that tells what is wrong. Any
other fault ends the run without an exit status. In both cases the command is not carried out.

## Main definitions

* `CommandLine.Carried`: the exits of a command that is carried out.

## Main results

* `carried_carryOut`: a command that is carried out does not end like one whose configuration
  cannot be loaded.
* `run_of_failed_load`: how loading fails without a global file, and how a run ends then.
* `not_forall_isMistake`: a file that cannot be used is not always a mistake of the user.
-/

namespace ProjectLint.CommandLine

open Config Log

variable {w : World} {command : Command} {behaviours : List Execution.Behaviour} {root : Path}

/-! ### Commands that are carried out -/

/-- The exits of a command that is carried out. -/
def Carried : Except Crash ExitStatus → Prop
  | .ok status => status ≠ .misused
  | .error crash => ∀ e, crash ≠ .loading e

theorem Carried.ne_misused {exit : Except Crash ExitStatus} (h : Carried exit) :
    exit ≠ .ok .misused := by
  rintro rfl
  exact h rfl

theorem Carried.ne_loading {exit : Except Crash ExitStatus} (h : Carried exit) (e : LoadFault) :
    exit ≠ .error (.loading e) := by
  rintro rfl
  exact h e rfl

theorem carried_lintEnding (format : Format) (file : String)
    (result : Except Session.Fault Session.LintOutcome) :
    Carried (lintEnding format file result).exit := by
  rcases result with e | o
  · exact fun _ => Crash.noConfusion
  · rw [lintEnding]
    split
    · dsimp only
      split <;> exact ExitStatus.noConfusion
    · exact ExitStatus.noConfusion

theorem carried_fixEnding (linter : Linter) (result : Except Session.Fault Session.FixOutcome) :
    Carried (fixEnding linter result).exit := by
  rcases result with e | o
  · exact fun _ => Crash.noConfusion
  · rw [fixEnding]
    split <;> exact ExitStatus.noConfusion

theorem carried_statusEnding (settings : Settings) (context : ProjectContext)
    (result : Except Session.Fault String) :
    Carried (statusEnding settings context result).exit := by
  rcases result with e | version
  · exact fun _ => Crash.noConfusion
  · exact ExitStatus.noConfusion

/-- A command that is carried out does not end like one whose configuration cannot be loaded. -/
theorem carried_carryOut (settings : Settings) (w : World) (root : String) (command : Command)
    (behaviours : List Execution.Behaviour) :
    Carried (carryOut settings w root command behaviours).exit := by
  cases command with
  | lint project file format =>
    rw [carryOut, lint]
    split
    · exact fun _ => Crash.noConfusion
    · dsimp only [Ending.after]
      split
      · exact carried_lintEnding _ _ _
      · exact ExitStatus.noConfusion
  | fix project file =>
    rw [carryOut, fix]
    split
    · exact fun _ => Crash.noConfusion
    · dsimp only [Ending.after]
      split
      · exact carried_fixEnding _ _
      · exact ExitStatus.noConfusion
  | status project =>
    rw [carryOut, status]
    dsimp only [Ending.after]
    split
    · exact fun _ => Crash.noConfusion
    · exact ExitStatus.noConfusion
    · dsimp only
      split
      · exact carried_statusEnding _ _ _
      · exact ExitStatus.noConfusion

/-! ### Runs -/

theorem run_of_command {words : List String} {arguments : Arguments}
    (hread : Arguments.read words = .ok arguments) (hversion : arguments.version = false)
    (hcommand : arguments.command = some command) :
    run w words behaviours =
      (execute w command behaviours).transcript arguments.verbosity.threshold := by
  simp [run, hread, hversion, hcommand]

/-- Every threshold lets an error pass. -/
theorem rank_threshold_le (v : Verbosity) : v.threshold.rank ≤ Level.error.rank := by
  rw [Verbosity.threshold]
  split
  · exact le_refl _
  · split
    · decide
    · split <;> decide

theorem written_append_error (v : Verbosity) (log : List Record) (message : String) :
    written v.threshold (log ++ [⟨.error, .commandLine, message, none⟩]) =
      written v.threshold log ++ line .error Source.commandLine.name message := by
  have hpasses := rank_threshold_le v
  simp [written, List.filter_append, hpasses, String.join_append, Record.line]

theorem value_loadSettings (w : World) (root : Path) (project : ProjectOptions) :
    (loadSettings w root project).value = (load w (some root)
      ((given project.config).map Path.ofText) (overrides project)).run.value.map
        Loaded.settings := rfl

theorem loadSettings_eq_error_iff {project : ProjectOptions} {e : LoadFault} :
    (loadSettings w root project).value = .error e ↔ (load w (some root)
      ((given project.config).map Path.ofText) (overrides project)).run.value = .error e := by
  rw [value_loadSettings, map_eq_error_iff]

theorem execute_of_error
    (hroot : resolved w ((given command.project.root).getD ".") = .ok root) {e : LoadFault}
    (h : (loadSettings w root command.project).value = .error e) :
    execute w command behaviours = Ending.after [] (loadSettings w root command.project).log
      (if e.isMistake then .told .misused .error e.message else .crashed (.loading e)) := by
  simp only [execute, hroot, h]

theorem execute_of_ok
    (hroot : resolved w ((given command.project.root).getD ".") = .ok root) {settings : Settings}
    (h : (loadSettings w root command.project).value = .ok settings) :
    execute w command behaviours = Ending.after [] (loadSettings w root command.project).log
      (carryOut settings w root.text command behaviours) := by
  simp only [execute, hroot, h]

theorem carried_execute
    (hroot : resolved w ((given command.project.root).getD ".") = .ok root) {settings : Settings}
    (h : (loadSettings w root command.project).value = .ok settings) :
    Carried (execute w command behaviours).exit := by
  rw [execute_of_ok hroot h]
  exact carried_carryOut settings w root.text command behaviours

section

variable (hglobal : ∀ path, globalPath w = .ok path → w.isFile path = .ok false)
  (hroot : resolved w ((given command.project.root).getD ".") = .ok root) {e : LoadFault}

include hglobal hroot

theorem execute_of_mistaken
    (h : Mistaken w (some root) ((given command.project.config).map Path.ofText) e) :
    execute w command behaviours = Ending.after [] (loadSettings w root command.project).log
      (.told .misused .error e.message) := by
  rw [execute_of_error hroot
    (loadSettings_eq_error_iff.mpr ((load_eq_error_iff hglobal).mpr (.inl h))), if_pos h.isMistake]

theorem execute_of_escaped
    (h : Escaped w (some root) ((given command.project.config).map Path.ofText)
      (overrides command.project) e) :
    execute w command behaviours = Ending.after [] (loadSettings w root command.project).log
      (.crashed (.loading e)) := by
  rw [execute_of_error hroot
    (loadSettings_eq_error_iff.mpr ((load_eq_error_iff hglobal).mpr (.inr h))), h.isMistake]
  rfl

/-- A command is carried out, or its configuration cannot be loaded. -/
theorem execute_cases (behaviours : List Execution.Behaviour) :
    Carried (execute w command behaviours).exit ∨
      (∃ e, Mistaken w (some root) ((given command.project.config).map Path.ofText) e) ∨
      ∃ e, Escaped w (some root) ((given command.project.config).map Path.ofText)
        (overrides command.project) e := by
  rcases hload : (loadSettings w root command.project).value with e | settings
  · rcases (load_eq_error_iff hglobal).mp (loadSettings_eq_error_iff.mp hload) with h | h
    · exact .inr (.inl ⟨e, h⟩)
    · exact .inr (.inr ⟨e, h⟩)
  · exact .inl (carried_execute hroot hload)

end

/-- **A configuration that cannot be loaded ends a run.** Let there be no global file. Loading fails
with a mistake of the user, or with a fault that nothing expects. A run of any command fails in the
same way: after a mistake of the user it ends with the exit status for that, and its last record
tells of the mistake; after any other fault it ends without an exit status. In both cases it prints
nothing and starts no child. -/
theorem run_of_failed_load (w : World)
    (hglobal : ∀ path, globalPath w = .ok path → w.isFile path = .ok false) :
    (∀ root custom overrides e,
      ((load w root custom overrides).run.value = .error e ↔
        Mistaken w root custom e ∨ Escaped w root custom overrides e) ∧
      (Mistaken w root custom e → e.isMistake = true) ∧
      (Escaped w root custom overrides e → e.isMistake = false)) ∧
    ∀ words behaviours arguments command root, Arguments.read words = .ok arguments →
      arguments.version = false → arguments.command = some command →
      resolved w ((given command.project.root).getD ".") = .ok root →
      let custom := (given command.project.config).map Path.ofText
      let told := run w words behaviours
      (told.exit = .ok .misused ↔ ∃ e, Mistaken w (some root) custom e) ∧
      (∀ e, told.exit = .error (.loading e) ↔
        Escaped w (some root) custom (overrides command.project) e) ∧
      (∀ e, Mistaken w (some root) custom e →
        ∃ before, told.errors = before ++ line .error Source.commandLine.name e.message) ∧
      ∀ e, Mistaken w (some root) custom e ∨
          Escaped w (some root) custom (overrides command.project) e →
        told.output = "" ∧ told.runs = [] := by
  refine ⟨fun root custom overrides e =>
    ⟨load_eq_error_iff hglobal, Mistaken.isMistake, Escaped.isMistake⟩, ?_⟩
  intro words behaviours arguments command root hread hversion hcommand hroot custom told
  have htold : told = (execute w command behaviours).transcript arguments.verbosity.threshold :=
    run_of_command hread hversion hcommand
  have hexit : told.exit = (execute w command behaviours).exit := by
    rw [htold]
    rfl
  have hcases := execute_cases hglobal hroot behaviours
  refine ⟨⟨fun hmisused => ?_, ?_⟩, fun e => ⟨fun hloading => ?_, fun h => ?_⟩, fun e h => ?_, ?_⟩
  · rw [hexit] at hmisused
    rcases hcases with hcarried | hmistaken | ⟨e, h⟩
    · exact absurd hmisused hcarried.ne_misused
    · exact hmistaken
    · rw [execute_of_escaped hglobal hroot h] at hmisused
      cases hmisused
  · rintro ⟨e, h⟩
    rw [hexit, execute_of_mistaken hglobal hroot h]
    rfl
  · rw [hexit] at hloading
    rcases hcases with hcarried | ⟨e', h⟩ | ⟨e', h⟩
    · exact absurd hloading (hcarried.ne_loading e)
    · rw [execute_of_mistaken hglobal hroot h] at hloading
      cases hloading
    · rw [execute_of_escaped hglobal hroot h] at hloading
      cases hloading
      exact h
  · rw [hexit, execute_of_escaped hglobal hroot h]
    rfl
  · rw [htold, execute_of_mistaken hglobal hroot h]
    exact ⟨_, written_append_error arguments.verbosity _ e.message⟩
  · rintro e (h | h)
    · rw [htold, execute_of_mistaken hglobal hroot h]
      exact ⟨rfl, rfl⟩
    · rw [htold, execute_of_escaped hglobal hroot h]
      exact ⟨rfl, rfl⟩

/-- A project whose file is no document ends a check with the exit status of a mistake. -/
theorem run_of_unfinished_list :
    let ascii (text : String) : List UInt8 := text.toList.map fun c => UInt8.ofNat c.toNat
    let w : World := .ofFiles "/p" (.set .empty "HOME" "/h")
      [("/p/.lintbridge.yml", .file (ascii "linter: [") false)]
    let words := ["lint", "a.js"]
    let project : ProjectOptions := { root := none, runtime := none, config := none }
    let arguments : Arguments :=
      { version := false
        verbosity := { quiet := false, debug := false, verbose := false }
        command := some (.lint project "a.js" (some .json)) }
    (∀ path, globalPath w = .ok path → w.isFile path = .ok false) ∧
      Arguments.read words = .ok arguments ∧
      resolved w "." = .ok (Path.ofText "/p") ∧
      Mistaken w (some (Path.ofText "/p")) none (.invalid "/p/.lintbridge.yml") ∧
      ∀ behaviours, (run w words behaviours).exit = .ok .misused := by
  intro ascii w words project arguments
  have hpath : globalPath w = .ok "/h/.lintbridge/config.yml" :=
    by decide +kernel
  have hglobal : ∀ path, globalPath w = .ok path → w.isFile path = .ok false := by
    rw [hpath]
    rintro _ ⟨⟩
    decide +kernel
  have hread : Arguments.read words = .ok arguments := by
    decide +kernel
  have hroot : resolved w "." = .ok (Path.ofText "/p") := by
    decide +kernel
  have hload : (load w (some (Path.ofText "/p")) none []).run.value =
      .error (.invalid "/p/.lintbridge.yml") := by
    decide +kernel
  obtain ⟨hfails, hends⟩ := run_of_failed_load w hglobal
  obtain ⟨hiff, -, hescaped⟩ := hfails (some (Path.ofText "/p")) none [] _
  have hmistaken : Mistaken w (some (Path.ofText "/p")) none (.invalid "/p/.lintbridge.yml") :=
    (hiff.mp hload).resolve_right fun h => nomatch hescaped h
  refine ⟨hglobal, hread, hroot, hmistaken, fun behaviours => ?_⟩
  exact (hends words behaviours arguments _ _ hread rfl rfl hroot).1.mpr ⟨_, hmistaken⟩

/-- **A file that cannot be used is not always a mistake of the user.** A single byte that is no
text ends the loading with another fault. -/
theorem not_forall_isMistake :
    ¬∀ (w : World) (root custom : Option Path) (overrides : Entries) (e : LoadFault),
      (∀ path, globalPath w = .ok path → w.isFile path = .ok false) →
        (load w root custom overrides).run.value = .error e → e.isMistake = true := by
  intro h
  let w : World := .ofFiles "/p" (.set .empty "HOME" "/h")
    [("/p/.lintbridge.yml", .file [0xff] false)]
  have hload : (load w (some (Path.ofText "/p")) none []).run.value =
      .error (.undecodable ⟨0, [0xff], .start⟩) := by
    decide +kernel
  have hpath : globalPath w = .ok "/h/.lintbridge/config.yml" :=
    by decide +kernel
  have hglobal : ∀ path, globalPath w = .ok path → w.isFile path = .ok false := by
    rw [hpath]
    rintro _ ⟨⟩
    decide +kernel
  have hmistake := h w _ none [] _ hglobal hload
  cases hmistake

end ProjectLint.CommandLine
