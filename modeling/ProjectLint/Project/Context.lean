import ProjectLint.Project.SearchPath
import ProjectLint.World.Environment

/-!
# Project contexts

A context says everything that one run of a linter needs to know about its project. It is fixed
when the project is bound, and no later binding changes it.

## Main definitions

* `ProjectContext`: a linter, a search path and a working directory.
* `ProjectContext.environment`: the variables that a child process receives.
-/

namespace ProjectLint

/-- What a run of a linter needs to know about its project. -/
structure ProjectContext where
  /-- The root of the project, if there is one. -/
  root : Option String
  /-- The program of the linter. -/
  linterPath : String
  /-- The directories in which the linter looks for modules. -/
  searchPath : List String
  /-- The directory in which the linter runs. -/
  workingDirectory : String
  /-- The variable that lists the search path. -/
  searchVariable : String := "NODE_PATH"
  deriving DecidableEq, Repr

namespace ProjectContext

/-- The variables of a child process: those of `base`, with the search path in its variable. An
empty search path leaves the variable out. -/
def environment (c : ProjectContext) (base : Environment) : Environment :=
  if c.searchPath = [] then base.unset c.searchVariable
  else base.set c.searchVariable (SearchPath.join SearchPath.separator c.searchPath)

/-- Every variable but the one of the search path has the value that it has in `base`. -/
theorem get?_environment_of_ne (c : ProjectContext) (base : Environment) {name : String}
    (h : name ≠ c.searchVariable) : (c.environment base).get? name = base.get? name := by
  unfold environment
  split <;> simp [Environment.get?_set, Environment.get?_unset, h]

/-- The variable of the search path is absent exactly when the path is empty. -/
theorem get?_environment_self (c : ProjectContext) (base : Environment) :
    (c.environment base).get? c.searchVariable =
      if c.searchPath = [] then none
      else some (SearchPath.join SearchPath.separator c.searchPath) := by
  unfold environment
  split <;> simp [Environment.get?_set, Environment.get?_unset]

end ProjectContext

end ProjectLint
