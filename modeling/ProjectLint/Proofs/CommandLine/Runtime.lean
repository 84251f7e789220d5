import ProjectLint.Proofs.CommandLine.Misuse
import ProjectLint.Proofs.Session.Outcome

/-!
# The runtime that a command line names

A command line can name the runtime that executes the linter. What it names goes through the layers
of the configuration, where it is the strongest, and through the settings, where an empty text
counts as none. So a runtime that is named decides how the linter is started, whatever the files
say; but the linter cannot be started without a runtime in this way.

## Main definitions

* `Command.file?`, `Command.linterArguments`: the file that a command is about, and the arguments
  that the linter receives in front of it.
* `CommandLine.Prepared`: a command gets as far as its process.

## Main results

* `commands_carryOut`: the commands of the processes that a command runs.
* `runtime_of_loadSettings`: what the settings make of a runtime that is named.
* `command_of_named_runtime`: how the linter is started when a runtime is named.
* `not_forall_empty_runtime`: an empty runtime does not start the linter directly.
-/

namespace ProjectLint.CommandLine

open Config Session Text

/-- The file that a command is about. -/
def Command.file? : Command → Option String
  | lint _ file _ => some file
  | fix _ file => some file
  | status _ => none

/-- The arguments that the linter receives in front of the file. -/
def Command.linterArguments (linter : Linter) : Command → List String
  | lint .. => linter.lintArguments
  | fix .. => linter.fixArguments
  | status _ => []

/-- A command gets as far as its process: its project has a root and settings, the session finds a
context for the project, and the command is about a file that has a path. -/
structure Prepared (w : World) (command : Command) (root : Path) (settings : Settings)
    (c : ProjectContext) (path : Path) : Prop where
  resolves : resolved w ((given command.project.root).getD ".") = .ok root
  loads : (loadSettings w root command.project).value = .ok settings
  finds : ((Session.ofSettings w settings).contextFor w root.text).value.1 = .ok c
  names : ∃ file, command.file? = some file ∧ resolved w file = .ok path

variable {w : World} {words : List String} {arguments : Arguments} {command : Command}
  {behaviours : List Execution.Behaviour} {file : String} {root path : Path} {settings : Settings}
  {project : ProjectOptions} {named : Given}

/-! ### The process of a command -/

/-- The commands of several runs. -/
def commands (runs : List Execution.Run) : List (List String) := runs.map (·.request.command)

/-- The command of the process that checks or corrects a file. -/
def Command.process (command : Command) (settings : Settings) (path : Path) (c : ProjectContext) :
    List String :=
  ProjectLint.Command.base c settings.runtime ++ command.linterArguments settings.linter ++
    [path.text]

theorem runs_lintEnding (format : Format) (file : String)
    (result : Except Session.Fault LintOutcome) : (lintEnding format file result).runs = [] := by
  rcases result with e | o
  · rfl
  · rw [lintEnding]
    split <;> rfl

theorem runs_fixEnding (linter : Linter) (result : Except Session.Fault FixOutcome) :
    (fixEnding linter result).runs = [] := by
  rcases result with e | o
  · rfl
  · rw [fixEnding]
    split <;> rfl

theorem runs_lint {s : Session} {format : Format} (hpath : resolved w file = .ok path) :
    (lint s w root.text file format behaviours).runs =
      (s.perform w (.lint root.text path.text none) behaviours).run.toList := by
  simp only [lint, hpath, Ending.after]
  cases (s.perform w (.lint root.text path.text none) behaviours).answer with
  | lint result => rw [runs_lintEnding, List.append_nil]
  | _ => exact List.append_nil _

theorem runs_fix {s : Session} (hpath : resolved w file = .ok path) :
    (fix s w root.text file behaviours).runs =
      (s.perform w (.fix root.text path.text none) behaviours).run.toList := by
  simp only [fix, hpath, Ending.after]
  cases (s.perform w (.fix root.text path.text none) behaviours).answer with
  | fix result => rw [runs_fixEnding, List.append_nil]
  | _ => exact List.append_nil _

/-- A command about a file runs one process for the context of its project, and none if there is no
context. -/
theorem commands_carryOut (settings : Settings) (root : Path)
    (behaviours : List Execution.Behaviour) (hfile : command.file? = some file)
    (hpath : resolved w file = .ok path) :
    commands (carryOut settings w root.text command behaviours).runs =
      (((Session.ofSettings w settings).contextFor w root.text).value.1.toOption.map
        (command.process settings path)).toList := by
  have hcommand (request : Execution.Request) (behaviour : Execution.Behaviour) :
      commands [Execution.run request (limit settings) .none behaviour] = [request.command] :=
    rfl
  rcases h : ((Session.ofSettings w settings).contextFor w root.text).value with ⟨e | c, s⟩
  · have hnone (call : Call) (hcall : call.root = root.text) :
        ((Session.ofSettings w settings).perform w call behaviours).run = none :=
      (perform_of_error call behaviours (by rw [hcall, h])).1
    cases command with
    | status project => cases hfile
    | lint project file format =>
      cases hfile
      rw [carryOut, runs_lint hpath, hnone _ rfl]
      rfl
    | fix project file =>
      cases hfile
      rw [carryOut, runs_fix hpath, hnone _ rfl]
      rfl
  · cases command with
    | status project => cases hfile
    | lint project file format =>
      cases hfile
      rw [carryOut, runs_lint hpath, (perform_lint_of_ok path.text none behaviours h).2.1]
      exact hcommand _ _
    | fix project file =>
      cases hfile
      rw [carryOut, runs_fix hpath, (perform_fix_of_ok path.text none behaviours h).2.1]
      exact hcommand _ _

theorem runs_carryOut_of_error {e : FileFault} (hfile : command.file? = some file)
    (hpath : resolved w file = .error e) :
    (carryOut settings w root.text command behaviours).runs = [] := by
  cases command with
  | status project => cases hfile
  | lint project file format =>
    cases hfile
    simp only [carryOut, lint, hpath]
    rfl
  | fix project file =>
    cases hfile
    simp only [carryOut, fix, hpath]
    rfl

theorem runs_execute_of_error {e : LoadFault}
    (hroot : resolved w ((given command.project.root).getD ".") = .ok root)
    (hload : (loadSettings w root command.project).value = .error e) :
    (execute w command behaviours).runs = [] := by
  rw [execute_of_error hroot hload]
  split <;> rfl

theorem runs_execute (hroot : resolved w ((given command.project.root).getD ".") = .ok root)
    (hload : (loadSettings w root command.project).value = .ok settings) :
    (execute w command behaviours).runs =
      (carryOut settings w root.text command behaviours).runs := by
  rw [execute_of_ok hroot hload]
  rfl

/-- A command about a file runs a process exactly if it gets as far as that. -/
theorem mem_commands_execute_iff (hfile : command.file? = some file) {words : List String} :
    words ∈ commands (execute w command behaviours).runs ↔
      ∃ root settings c path, Prepared w command root settings c path ∧
        words = command.process settings path c := by
  constructor
  · intro hwords
    rcases hroot : resolved w ((given command.project.root).getD ".") with e | root
    · simp [execute, hroot, Ending.crashed, commands] at hwords
    rcases hload : (loadSettings w root command.project).value with e | settings
    · simp [runs_execute_of_error hroot hload, commands] at hwords
    rw [runs_execute hroot hload] at hwords
    rcases hpath : resolved w file with e | path
    · simp [runs_carryOut_of_error hfile hpath, commands] at hwords
    rw [commands_carryOut settings root behaviours hfile hpath] at hwords
    rcases hfound : ((Session.ofSettings w settings).contextFor w root.text).value.1 with e | c
    · simp [hfound, Except.toOption] at hwords
    · simp only [hfound, Except.toOption, Option.map_some, Option.toList_some,
        List.mem_singleton] at hwords
      exact ⟨root, settings, c, path, ⟨hroot, hload, hfound, file, hfile, hpath⟩, hwords⟩
  · rintro ⟨root, settings, c, path, ⟨hroot, hload, hfound, file', hfile', hpath⟩, rfl⟩
    rw [runs_execute hroot hload, commands_carryOut settings root behaviours hfile' hpath, hfound]
    exact List.mem_singleton_self _

/-! ### The settings -/

/-- What the command line says has each of its keys once. -/
theorem proper_overrides (project : ProjectOptions) : (Value.map (overrides project)).Proper := by
  rw [overrides]
  split
  · exact .map .nil (by simp)
  · next named _ =>
    have hpath : (Value.map [(.str "path", named.value)]).Proper := by
      refine .map (List.pairwise_singleton _ _) fun e he => ?_
      rw [List.mem_singleton.mp he]
      cases named with
      | text s => exact .single rfl
      | nothing => exact .list (by simp)
    refine .map (List.pairwise_singleton _ _) fun e he => ?_
    rw [List.mem_singleton.mp he]
    exact hpath

/-- What an option is given becomes a setting if it is a text that is not empty. -/
theorem toText_text_value (default : String) (named : Given) :
    Letter.toText (text (Letter.ofText default) (some named.value)) =
      (given (some named)).getD default := by
  cases named with
  | nothing => exact Letter.toText_ofText default
  | text s =>
    rw [Config.text, Option.bind_some, Given.value, Value.letters?]
    cases hs : Letter.ofText s with
    | nil =>
      obtain rfl : s = "" := Letter.ofText_injective hs
      exact Letter.toText_ofText default
    | cons l ls =>
      have hne : s.isEmpty = false := by
        rw [String.isEmpty_eq_false_iff]
        rintro rfl
        cases hs
      have hgiven : given (some (.text s)) = some s := by simp [given, Option.filter, hne]
      rw [hgiven]
      change Letter.toText (l :: ls) = s
      rw [← hs, Letter.toText_ofText]

/-- A runtime that is named is the one of the settings, unless its name is empty or missing. -/
theorem runtime_of_loadSettings (hnamed : project.runtime = some named)
    (hload : (loadSettings w root project).value = .ok settings) :
    settings.runtime = (given (some named)).getD "node" := by
  rw [value_loadSettings, value_load] at hload
  obtain ⟨loaded, hload, hsettings⟩ := map_eq_ok_iff.mp hload
  obtain ⟨ls, hls, hload⟩ := bind_eq_ok_iff.mp hload
  obtain ⟨loaded', hloaded, hload⟩ := bind_eq_ok_iff.mp hload
  cases hload
  cases hsettings
  obtain ⟨limit, -, hloaded⟩ := bind_eq_ok_iff.mp (mapError_eq_ok_iff.mp hloaded)
  cases hloaded
  have hoverrides : overrides project =
      [(.str "runtime", .map [(.str "path", named.value)])] := by
    rw [overrides, hnamed]
  obtain ⟨weaker, hweaker⟩ : ∃ weaker, mergeLayers ls =
      Entries.over weaker (overrides project) := by
    obtain ⟨-, -⟩ := layered_of_layers hls
    rw [if_neg (by simp [hoverrides])]
    exact ⟨_, mergeLayers_snoc _ _⟩
  have hsection : ∀ v, (overrides project).field? "runtime" = some v → v.isMap = true := by
    rw [hoverrides, Entries.field?_cons_of_eq]
    rintro v ⟨⟩
    rfl
  have hpath := alike_field?_section weaker (proper_overrides project) hsection "path"
  change Letter.toText (text (Letter.ofText "node")
    ((sectionEntries (mergeLayers ls) "runtime").field? "path")) = _
  rw [hweaker, hpath.text, hoverrides, sectionEntries, Entries.field?_cons_of_eq]
  dsimp only [Value.entries]
  rw [Entries.field?_cons_of_eq, Option.some_or]
  exact toText_text_value "node" named

/-! ### Runs -/

theorem isEmpty_given_getD (named : Given) :
    ((given (some named)).getD "node").isEmpty = false := by
  cases h : given (some named) with
  | none => rfl
  | some s => simpa using (Option.filter_eq_some_iff.mp h).2

/-- **A runtime that is named decides how the linter is started.** Let a command line ask for a
check or a correction of a file, and name a runtime. In every world its run runs a process exactly
if the command gets as far as that. The process is then the runtime that is named, whatever the
files say; it receives the linter, the arguments of the command and the file. A name that is empty
or missing stands for the usual runtime. -/
theorem command_of_named_runtime (w : World) (words : List String)
    (behaviours : List Execution.Behaviour) (arguments : Arguments) (command : Command)
    (file : String) (named : Given) (hread : Arguments.read words = .ok arguments)
    (hcommand : arguments.command = some command) (hfile : command.file? = some file)
    (hnamed : command.project.runtime = some named) (process : List String) :
    process ∈ commands (run w words behaviours).runs ↔
      arguments.version = false ∧
        ∃ root settings c path, Prepared w command root settings c path ∧
          process = [(given (some named)).getD "node", c.linterPath] ++
            command.linterArguments settings.linter ++ [path.text] := by
  cases hversion : arguments.version with
  | true => simp [run, hread, hversion, Transcript.brief, commands]
  | false =>
    have hruns : (run w words behaviours).runs = (execute w command behaviours).runs := by
      rw [run_of_command hread hversion hcommand]
      rfl
    have hprocess {root : Path} {settings : Settings} {c : ProjectContext} {path : Path}
        (h : Prepared w command root settings c path) : command.process settings path c =
          [(given (some named)).getD "node", c.linterPath] ++
            command.linterArguments settings.linter ++ [path.text] := by
      rw [Command.process, ProjectLint.Command.base, runtime_of_loadSettings hnamed h.loads,
        isEmpty_given_getD]
      rfl
    rw [hruns, mem_commands_execute_iff hfile]
    constructor
    · rintro ⟨root, settings, c, path, h, rfl⟩
      exact ⟨rfl, root, settings, c, path, h, hprocess h⟩
    · rintro ⟨-, root, settings, c, path, h, rfl⟩
      exact ⟨root, settings, c, path, h, (hprocess h).symm⟩

/-- The runtime of a command line takes the place of the one of the project's file. -/
theorem command_of_named_runtime_over_file :
    let ascii (text : String) : List UInt8 := text.toList.map fun c => UInt8.ofNat c.toNat
    let w : World := .ofFiles "/p" (.set .empty "HOME" "/h")
      [("/p/.lintbridge.yml", .file (ascii "runtime:\n  path: bun\n") false)]
    let words := ["fix", "a.js", "--runtime", "/opt/node"]
    let project : ProjectOptions :=
      { root := none, runtime := some (.text "/opt/node"), config := none }
    let arguments : Arguments :=
      { version := false
        verbosity := { quiet := false, debug := false, verbose := false }
        command := some (.fix project "a.js") }
    Arguments.read words = .ok arguments ∧
      ∃ root settings c path, Prepared w (.fix project "a.js") root settings c path ∧
        ["/opt/node", "eslint", "--fix", "/p/a.js"] =
          ["/opt/node", c.linterPath] ++ settings.linter.fixArguments ++ [path.text] := by
  intro ascii w words project arguments
  have hread : Arguments.read words = .ok arguments := by
    decide +kernel
  have hruns : ["/opt/node", "eslint", "--fix", "/p/a.js"] ∈ commands (run w words []).runs := by
    decide +kernel
  exact ⟨hread, ((command_of_named_runtime w words [] arguments (.fix project "a.js") "a.js"
    (.text "/opt/node") hread rfl rfl rfl _).mp hruns).2⟩

/-- **An empty runtime does not start the linter directly.** The usual runtime executes it. -/
theorem not_forall_empty_runtime :
    ¬∀ (w : World) (words : List String) (behaviours : List Execution.Behaviour)
      (arguments : Arguments) (command : Command) (file runtime : String),
      Arguments.read words = .ok arguments → arguments.command = some command →
        command.file? = some file → command.project.runtime = some (.text runtime) →
        ∀ process ∈ commands (run w words behaviours).runs,
          ∃ root settings c path, Prepared w command root settings c path ∧
            process = (if runtime = "" then [c.linterPath] else [runtime, c.linterPath]) ++
              command.linterArguments settings.linter ++ [path.text] := by
  intro h
  let w : World := .ofFiles "/p" (.set .empty "HOME" "/h") [("/p/a.js", .file [] false)]
  let words := ["fix", "a.js", "--runtime", ""]
  let project : ProjectOptions := { root := none, runtime := some (.text ""), config := none }
  let arguments : Arguments :=
    { version := false
      verbosity := { quiet := false, debug := false, verbose := false }
      command := some (.fix project "a.js") }
  have hread : Arguments.read words = .ok arguments := by
    decide +kernel
  have hruns : ["node", "eslint", "--fix", "/p/a.js"] ∈ commands (run w words []).runs := by
    decide +kernel
  have hroot : resolved w "." = .ok (Path.ofText "/p") := by
    decide +kernel
  have hload : (loadSettings w (Path.ofText "/p") project).value = .ok { sources := ["cli"] } := by
    decide +kernel
  obtain ⟨root, settings, c, path, hprepared, hprocess⟩ :=
    h w words [] arguments (.fix project "a.js") "a.js" "" hread rfl rfl rfl _ hruns
  obtain rfl : Path.ofText "/p" = root := Except.ok.inj (hroot.symm.trans hprepared.resolves)
  obtain rfl : _ = settings := Except.ok.inj (hload.symm.trans hprepared.loads)
  cases congrArg List.length hprocess

end ProjectLint.CommandLine
