import ProjectLint.Number.Binary64

/-!
# Settings

How a linter is found, called and reported on. Every setting has a default, with which the linter
of a JavaScript project is run from the project's own packages.

## Main definitions

* `Linter`: how to find and call a linter.
* `Settings`: all settings, and where they were found.
* `Platform`: the two families of systems that name their files differently.
-/

namespace ProjectLint

/-- The family of systems that a project lives on. -/
inductive Platform
  | posix
  | windows
  deriving DecidableEq, Repr

/-- How to find and call a linter. The two directories are relative to the root of a project. -/
structure Linter where
  /-- The name of its program. -/
  name : String := "eslint"
  /-- The directory with the programs of a project. -/
  binDir : String := "node_modules/.bin"
  /-- The directory with the modules of a project. -/
  modulesDir : String := "node_modules"
  /-- The environment variable that lists the directories in which modules are looked for. -/
  searchVariable : String := "NODE_PATH"
  /-- The arguments before the file when it is checked. -/
  lintArguments : List String := ["--no-color", "--format", "compact"]
  /-- The arguments before the file when it is corrected. -/
  fixArguments : List String := ["--fix"]
  /-- The number of seconds after which a run is given up. -/
  timeout : Option Binary64 := none
  deriving DecidableEq, Repr

/-- All settings. -/
structure Settings where
  linter : Linter := {}
  /-- The program that executes the linter. If it is empty the linter is executed directly. -/
  runtime : String := "node"
  /-- Whether a failure is handed to the caller in place of an empty report. -/
  surfaceErrors : Bool := false
  /-- Where the settings were found, the weakest source first. -/
  sources : List String := []
  deriving DecidableEq, Repr

end ProjectLint
