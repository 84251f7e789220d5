import ProjectLint.CommandLine.Help
import ProjectLint.CommandLine.Options
import ProjectLint.Log.Output

/-!
# What a command line asks for

A command line has options for all commands, the name of a command, and what that command takes.
The options for all commands stand before the name; every word after it belongs to the command.

## Main definitions

* `CommandLine.Command`: a command and what it is told.
* `CommandLine.Arguments`: the whole of what is asked for.
* `CommandLine.Arguments.read`: reads a command line.
-/

namespace ProjectLint.CommandLine

/-- How findings are printed. -/
inductive Format
  | json
  | text
  deriving DecidableEq, Repr

namespace Format

/-- The name of a format. -/
def name : Format → String
  | json => "json"
  | text => "text"

/-- The format of a given name, and the usual one for any other name. -/
def ofName (s : String) : Format := if s = "text" then text else json

/-- A format is found by its name. -/
@[simp] theorem ofName_name : (f : Format) → ofName f.name = f
  | json => rfl
  | text => rfl

end Format

/-- What every command is told about a project. -/
structure ProjectOptions where
  /-- The root of the project. -/
  root : Option Given
  /-- The program that executes the linter. -/
  runtime : Option Given
  /-- The file with the configuration. -/
  config : Option Given
  deriving DecidableEq, Repr

/-- A command and what it is told. -/
inductive Command
  /-- Checks a file. The format is missing if its option is given nothing. -/
  | lint (project : ProjectOptions) (file : String) (format : Option Format)
  /-- Corrects a file. -/
  | fix (project : ProjectOptions) (file : String)
  /-- Shows how a project is resolved. -/
  | status (project : ProjectOptions)
  deriving DecidableEq, Repr

/-- What a command is told about its project. -/
def Command.project : Command → ProjectOptions
  | lint project _ _ => project
  | fix project _ => project
  | status project => project

/-- The whole of what a command line asks for. -/
structure Arguments where
  /-- Whether the version of the program is asked for. -/
  version : Bool
  verbosity : Log.Verbosity
  command : Option Command
  deriving DecidableEq, Repr

/-! ### Grammars -/

/-- The request for help. -/
def helpSwitch : Switch := ⟨["-h", "--help"], "help", .help⟩

/-- An option that is given or not. -/
def flagSwitch (field : String) (spellings : List String) : Switch := ⟨spellings, field, .flag⟩

/-- An option with any value. -/
def valueSwitch (field : String) : Switch := ⟨["--" ++ field], field, .value []⟩

/-- The options about a project. -/
def projectSwitches : List Switch :=
  [valueSwitch "root", valueSwitch "runtime", valueSwitch "config"]

/-- The option that chooses a format. -/
def formatSwitch : Switch :=
  ⟨["--format"], "format", .value [Format.json.name, Format.text.name]⟩

/-- The name of the program. -/
def programName : String := "lintbridge"

/-- The grammar of a command line up to the name of a command. -/
def mainGrammar : Grammar :=
  { program := programName
    options := [helpSwitch, flagSwitch "version" ["--version"], flagSwitch "debug" ["--debug"],
      flagSwitch "verbose" ["--verbose", "-v"], flagSwitch "quiet" ["--quiet", "-q"]]
    shape := .command
    help := Help.main }

/-- The grammar of the command that checks a file. -/
def lintGrammar : Grammar :=
  { program := programName ++ " lint"
    options := helpSwitch :: projectSwitches ++ [formatSwitch]
    shape := .single "file"
    help := Help.lint }

/-- The grammar of the command that corrects a file. -/
def fixGrammar : Grammar :=
  { program := programName ++ " fix"
    options := helpSwitch :: projectSwitches
    shape := .single "file"
    help := Help.fix }

/-- The grammar of the command that shows how a project is resolved. -/
def statusGrammar : Grammar :=
  { program := programName ++ " status"
    options := helpSwitch :: projectSwitches
    shape := .nothing
    help := Help.status }

/-- The names of the commands. -/
def commandNames : List String := ["lint", "fix", "status"]

/-! ### Reading -/

/-- What words say about a project. -/
def ProjectOptions.ofWords (w : Words) : ProjectOptions :=
  { root := w.value? "root", runtime := w.value? "runtime", config := w.value? "config" }

/-- The file among the words. -/
def Words.file (w : Words) : String := w.arguments.headD ""

/-- The format among the words: the usual one if the option is missing, and none if it is given
nothing. -/
def Words.format (w : Words) : Option Format :=
  match w.value? "format" with
  | none => some .json
  | some given => given.text?.map Format.ofName

/-- Reads a command and everything after its name, and gives the words that have no meaning. -/
def Command.read (name : String) (words : List String) : Except Stop (Command × List String) :=
  match name with
  | "lint" => do
    let w ← lintGrammar.read words
    return (.lint (.ofWords w) w.file w.format, w.extras)
  | "fix" => do
    let w ← fixGrammar.read words
    return (.fix (.ofWords w) w.file, w.extras)
  | "status" => do
    let w ← statusGrammar.read words
    return (.status (.ofWords w), w.extras)
  | _ => mainGrammar.wrong "command" (Grammar.invalidChoice name commandNames)

/-- How much is written, by the words. -/
def verbosityOf (w : Words) : Log.Verbosity :=
  { quiet := w.has "quiet", debug := w.has "debug", verbose := w.has "verbose" }

/-- Refuses words that have no meaning. -/
def refuseExtras (extras : List String) : Except Stop Unit :=
  if extras = [] then .ok ()
  else
    let shown := " ".intercalate extras
    .error (.usage programName s!"unrecognized arguments: {shown}")

/-- Reads a command line. -/
def Arguments.read (words : List String) : Except Stop Arguments := do
  let w ← mainGrammar.read words
  match w.arguments with
  | [] =>
    refuseExtras w.extras
    return { version := w.has "version", verbosity := verbosityOf w, command := none }
  | name :: rest =>
    let (command, extras) ← Command.read name rest
    refuseExtras (w.extras ++ extras)
    return { version := w.has "version", verbosity := verbosityOf w, command := some command }

/-- The line that tells about a wrong command line. -/
def usageLine (program message : String) : String := s!"{program}: error: {message}\n"

end ProjectLint.CommandLine
