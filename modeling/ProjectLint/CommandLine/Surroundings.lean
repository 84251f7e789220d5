import ProjectLint.CommandLine.Run

/-!
# What a run looks at

A run sees its surroundings as a world. Before the run the world has to be filled with what the run
looks at: first the files of the configuration, then the variables that they refer to, and last the
places of the linter.

## Main definitions

* `Surroundings.commonVariables`: the variables that every run looks at.
* `Surroundings.configuration`: the places of the configuration's files.
* `Surroundings.references`: the variables that these files refer to.
* `Surroundings.linter`: the places of the project and its linter.
-/

namespace ProjectLint.CommandLine.Surroundings

/-- The variables that every run looks at. -/
def commonVariables : List String := ["HOME", "LINTBRIDGE_HOME", "PATH"]

/-- The command of a command line, if it has one. -/
def command? (words : List String) : Option Command :=
  match Arguments.read words with
  | .ok arguments => if arguments.version then none else arguments.command
  | .error _ => none

/-- The absolute path of a text. -/
def absolute (w : World) (text : String) : String :=
  ((Path.ofText w.directory).absolute (Path.ofText text)).text

/-- The root of a command's project. -/
def root (w : World) (command : Command) : Path :=
  (Path.ofText w.directory).resolve (Path.ofText ((given command.project.root).getD "."))

/-- The places of the configuration's files. -/
def configuration (w : World) (command : Command) : List String :=
  (Config.globalPath w).toOption.toList ++
    match given command.project.config with
    | some path => [path]
    | none => Config.projectNames.map fun name => (root w command ++ Path.ofText name).text

/-- The names of the variables to which a text refers. -/
def referencedNames (cs : List Char) : List String :=
  (Config.segments (Text.Letter.ofChars cs)).filterMap fun
    | .reference r => r.characters?
    | .plain _ => none

/-- The variables to which the files at the given places refer. -/
def references (w : World) (paths : List String) : List String :=
  paths.flatMap fun path =>
    match w.read path with
    | .ok bytes => referencedNames (Text.Utf8.lossy bytes)
    | .error _ => []

/-- The settings of a command, as far as they can be loaded. -/
def settings (w : World) (command : Command) : Settings :=
  match (loadSettings w (root w command) command.project).value with
  | .ok settings => settings
  | .error _ => {}

/-- The places of the project and its linter. -/
def linter (w : World) (command : Command) (settings : Settings) : List String :=
  let directory := (root w command).text
  directory :: candidates directory settings.linter .posix ++
    w.searchDirectories.map fun d => Path.joinText d settings.linter.name

end ProjectLint.CommandLine.Surroundings
