import ProjectLint.Project.Context
import ProjectLint.Settings
import ProjectLint.Text.Blank

/-!
# Commands of a linter

A linter is a script that a runtime executes, so that a project's own linter is used even where it
is not on the program path. Without a runtime the script is executed directly.

## Main definitions

* `Command.base`: the runtime and the linter.
* `Command.lint`, `Command.fix`, `Command.version`: the three commands.
* `Command.readVersion`: the version that a linter prints.
-/

namespace ProjectLint.Command

/-- The runtime, unless it is empty, and the linter of a project. -/
def base (context : ProjectContext) (runtime : String) : List String :=
  if runtime.isEmpty then [context.linterPath] else [runtime, context.linterPath]

/-- The command that checks a file. -/
def lint (linter : Linter) (context : ProjectContext) (file runtime : String) : List String :=
  base context runtime ++ linter.lintArguments ++ [file]

/-- The command that corrects a file. -/
def fix (linter : Linter) (context : ProjectContext) (file runtime : String) : List String :=
  base context runtime ++ linter.fixArguments ++ [file]

/-- The command that prints the version of the linter. -/
def version (context : ProjectContext) (runtime : String) : List String :=
  base context runtime ++ ["--version"]

/-- The version that is told when there is no telling. -/
def unknownVersion : String := "unknown"

/-- The version that a linter prints: its output without blanks at the ends and without a leading
letter `v`, however often repeated. -/
def readVersion (output : String) : String :=
  match (Text.trimWide output.toList).dropWhile (· = 'v') with
  | [] => unknownVersion
  | cs => String.ofList cs

end ProjectLint.Command
