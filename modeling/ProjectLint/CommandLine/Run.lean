import ProjectLint.CommandLine.Arguments
import ProjectLint.Config.Load
import ProjectLint.Report.Json
import ProjectLint.Session.Call

/-!
# What the program does

A run of the program reads its command line, loads the configuration of the project and carries
out one command. It ends with an exit status, and has written a text to its output and the records
that are loud enough to its error stream. Nothing else is printed: a command that fails writes
nothing to the output.

## Main definitions

* `CommandLine.ExitStatus`: how a run ends.
* `CommandLine.Crash`: why a run ends without an exit status.
* `CommandLine.Ending`: what a command leaves behind.
* `CommandLine.run`: a run of the program.

## Main results

* `CommandLine.lintEnding_failed`: a check that fails prints nothing.
-/

namespace ProjectLint.CommandLine

open Log

/-- The version of the program. -/
def programVersion : String := "0.1.0"

/-- How a run ends. -/
inductive ExitStatus
  /-- All went well, and nothing was found. -/
  | success
  /-- All went well, and there are findings. -/
  | findings
  /-- The linter could not be run to its end. -/
  | toolFailed
  /-- The command line or the configuration is wrong. -/
  | misused
  deriving DecidableEq, Repr

/-- The number of an exit status. -/
def ExitStatus.code : ExitStatus → Nat
  | success => 0
  | findings => 1
  | toolFailed => 2
  | misused => 3

/-- Exit statuses are told apart by their numbers. -/
theorem ExitStatus.code_injective : ∀ {x y : ExitStatus}, x.code = y.code → x = y := by
  intro x y
  cases x <;> cases y <;> simp [code]

/-- Why a run ends without an exit status. -/
inductive Crash
  /-- A path cannot be used. -/
  | file (e : FileFault)
  /-- The configuration cannot be loaded, through no mistake in it. -/
  | loading (e : Config.LoadFault)
  /-- A call ended without an outcome. -/
  | call (e : Session.Fault)
  deriving DecidableEq, Repr

/-- The wording of a crash. -/
def Crash.message : Crash → String
  | file e => e.message
  | loading e => e.message
  | call e => e.message

/-- What a command leaves behind. -/
structure Ending where
  exit : Except Crash ExitStatus
  /-- The text that it prints. -/
  output : String := ""
  /-- The runs of child processes. -/
  runs : List Execution.Run := []
  log : List Record := []

namespace Ending

/-- A command that ends with an exit status and prints nothing. -/
def silent (status : ExitStatus) : Ending := { exit := .ok status }

/-- A command that ends without an exit status. -/
def crashed (crash : Crash) : Ending := { exit := .error crash }

/-- A command that ends with an exit status after it has told why. -/
def told (status : ExitStatus) (level : Level) (message : String) : Ending :=
  { exit := .ok status, log := [⟨level, .commandLine, message, none⟩] }

/-- What is left behind with runs and records that came before. -/
def after (runs : List Execution.Run) (log : List Record) (e : Ending) : Ending :=
  { e with runs := runs ++ e.runs, log := log ++ e.log }

end Ending

/-- Lines, each with a line feed at its end. -/
def printed (lines : List String) : String := String.join (lines.map fun l => l ++ "\n")

/-! ### Checking a file -/

/-- The line of a diagnostic. -/
def diagnosticLine (file : String) (d : Diagnostic) : String :=
  s!"{file}:{d.line}:{d.column}: {d.display}"

/-- A report as it is printed. -/
def presented (format : Format) (file : String) (report : Report) : String :=
  match format with
  | .text => printed (report.diagnostics.map (diagnosticLine file))
  | .json => printed [report.json]

/-- The record of a failure. -/
def failureMessage (what : String) (status : Session.Status)
    (failure : Option Session.CallFailure) : String :=
  let reason := (failure.map Session.CallFailure.message).getD "None"
  s!"{what} failed ({status.name}): {reason}"

/-- How the check of a file ends. -/
def lintEnding (format : Format) (file : String) : Except Session.Fault Session.LintOutcome → Ending
  | .error e => .crashed (.call e)
  | .ok o =>
    if o.isOk then
      { exit := .ok (if o.report.length = 0 then .success else .findings)
        output := presented format file o.report }
    else .told .toolFailed .error (failureMessage "Lint" o.status o.failure)

/-- A check that fails prints nothing. -/
theorem lintEnding_failed (format : Format) (file : String) {o : Session.LintOutcome}
    (h : o.isOk = false) :
    (lintEnding format file (.ok o)).output = "" ∧
      (lintEnding format file (.ok o)).exit = .ok .toolFailed := by
  simp [lintEnding, h, Ending.told]

/-! ### Correcting a file -/

/-- How the correction of a file ends. -/
def fixEnding (linter : Linter) : Except Session.Fault Session.FixOutcome → Ending
  | .error e => .crashed (.call e)
  | .ok o =>
    if o.isOk then
      let status := (o.exitStatus.map toString).getD "None"
      .told .success .info s!"{linter.name} --fix exited with status {status}"
    else .told .toolFailed .error (failureMessage "Fix" o.status o.failure)

/-! ### Showing a project -/

/-- The page about a project. -/
def statusPage (settings : Settings) (context : ProjectContext) (linterVersion : String) : String :=
  let root := context.root.getD "None"
  let runtime := if settings.runtime.isEmpty then "<none>" else settings.runtime
  let sources := if settings.sources = [] then "defaults" else ", ".intercalate settings.sources
  printed <|
    [s!"lintbridge version: {programVersion}",
     s!"Project root:       {root}",
     s!"Linter:             {context.linterPath} ({linterVersion})",
     s!"Runtime:            {runtime}",
     s!"Working directory:  {context.workingDirectory}",
     s!"{context.searchVariable}:"] ++
    context.searchPath.map (fun entry => s!"  {entry}") ++
    [s!"Config sources:     {sources}"]

/-- How the question for a project's linter ends. -/
def statusEnding (settings : Settings) (context : ProjectContext) :
    Except Session.Fault String → Ending
  | .error e => .crashed (.call e)
  | .ok version => { exit := .ok .success, output := statusPage settings context version }

/-! ### Commands -/

/-- The absolute path that a text denotes. -/
def resolved (w : World) (text : String) : Except FileFault Path :=
  if '\x00' ∈ text.toList then .error .nulInPath
  else .ok ((Path.ofText w.directory).resolve (Path.ofText text))

/-- Checks a file. -/
def lint (s : Session) (w : World) (root file : String) (format : Format)
    (behaviours : List Execution.Behaviour) : Ending :=
  match resolved w file with
  | .error e => .crashed (.file e)
  | .ok path =>
    let done := s.perform w (.lint root path.text none) behaviours
    let ending : Ending := match done.answer with
      | .lint result => lintEnding format path.text result
      | _ => .silent .toolFailed
    ending.after done.run.toList done.log

/-- Corrects a file. -/
def fix (s : Session) (w : World) (root file : String) (behaviours : List Execution.Behaviour) :
    Ending :=
  match resolved w file with
  | .error e => .crashed (.file e)
  | .ok path =>
    let done := s.perform w (.fix root path.text none) behaviours
    let ending : Ending := match done.answer with
      | .fix result => fixEnding s.settings.linter result
      | _ => .silent .toolFailed
    ending.after done.run.toList done.log

/-- Shows how a project is resolved, and which version its linter has. -/
def status (s : Session) (w : World) (root : String) (behaviours : List Execution.Behaviour) :
    Ending :=
  let bound := s.contextFor w root
  let ending : Ending := match bound.value with
    | (.error (.file e), _) => .crashed (.file e)
    | (.error e, _) => .told .toolFailed .error e.message
    | (.ok context, s) =>
      let done := s.perform w (.version root none) behaviours
      let ending : Ending := match done.answer with
        | .version result => statusEnding s.settings context result
        | _ => .silent .toolFailed
      ending.after done.run.toList done.log
  ending.after [] bound.log

/-- Carries out a command for a project. -/
def carryOut (settings : Settings) (w : World) (root : String) (command : Command)
    (behaviours : List Execution.Behaviour) : Ending :=
  let s := Session.ofSettings w settings
  match command with
  | .lint _ file format => lint s w root file (format.getD .json) behaviours
  | .fix _ file => fix s w root file behaviours
  | .status _ => status s w root behaviours

/-! ### The configuration of a command -/

/-- The text that an option is given, unless it is missing or empty. -/
def given (option : Option Given) : Option String :=
  (option.bind Given.text?).filter fun s => !s.isEmpty

/-- The value that stands for what an option is given: a text, or a list of none. -/
def Given.value : Given → Value
  | .text s => .str s
  | .nothing => .list []

/-- What the command line says in place of the configuration. -/
def overrides (project : ProjectOptions) : Entries :=
  match project.runtime with
  | none => []
  | some runtime => [(.str "runtime", .map [(.str "path", runtime.value)])]

/-- Loads the configuration of a command. -/
def loadSettings (w : World) (root : Path) (project : ProjectOptions) :
    Logged (Except Config.LoadFault Settings) :=
  (·.map Config.Loaded.settings) <$>
    (Config.load w (some root) ((given project.config).map Path.ofText) (overrides project)).run

/-- Loads the configuration of a command and carries it out. A mistake in the configuration is told
to the user. -/
def execute (w : World) (command : Command) (behaviours : List Execution.Behaviour) : Ending :=
  match resolved w ((given command.project.root).getD ".") with
  | .error e => .crashed (.file e)
  | .ok root =>
    let loaded := loadSettings w root command.project
    let ending : Ending := match loaded.value with
      | .error e => if e.isMistake then .told .misused .error e.message else .crashed (.loading e)
      | .ok settings => carryOut settings w root.text command behaviours
    ending.after [] loaded.log

/-! ### Runs -/

/-- What a run of the program shows. -/
structure Transcript where
  exit : Except Crash ExitStatus
  /-- The text that it writes to its output. -/
  output : String
  /-- The text that it writes to its error stream. -/
  errors : String
  /-- The runs of child processes. -/
  runs : List Execution.Run

/-- A transcript of a run without a child process. -/
def Transcript.brief (exit : Except Crash ExitStatus) (output errors : String) : Transcript :=
  { exit := exit, output := output, errors := errors, runs := [] }

/-- What an ending shows when records below a threshold are left out. -/
def Ending.transcript (threshold : Level) (e : Ending) : Transcript :=
  { exit := e.exit, output := e.output, errors := written threshold e.log, runs := e.runs }

/-- A run of the program in a world, where children behave as listed. -/
def run (w : World) (words : List String) (behaviours : List Execution.Behaviour) : Transcript :=
  match Arguments.read words with
  | .error (.help text) => .brief (.ok .success) text ""
  | .error (.usage program message) => .brief (.ok .misused) "" (usageLine program message)
  | .ok arguments =>
    if arguments.version then .brief (.ok .success) (printed [programVersion]) ""
    else match arguments.command with
      | none => .brief (.ok .misused) Help.main ""
      | some command =>
        (execute w command behaviours).transcript arguments.verbosity.threshold

end ProjectLint.CommandLine
