import ProjectLint.Log.Basic
import ProjectLint.Project.Root
import ProjectLint.World.Basic

/-!
# Which linter a project uses

A project's own linter is preferred. It is looked for under the project's root, and the first
candidate that is a regular file is taken, whatever is wrong with the ones before it. Without one
the linter of that name on the program path is taken, and without that its bare name.

## Main definitions

* `candidates`: the places of a project's own linter, in order.
* `firstRegular`: the first of several paths that leads to a regular file.
* `locateLinter`: the linter of a project, or of no project.
-/

namespace ProjectLint

open Log

/-- The places of a project's own linter. On Windows a package is started by a second file beside
the plain one. -/
def candidates (root : String) (linter : Linter) (platform : Platform) : List String :=
  let directory := Path.ofText root ++ Path.ofText linter.binDir
  let plain := (directory ++ Path.ofText linter.name).text
  match platform with
  | .posix => [plain]
  | .windows => [plain, (directory ++ Path.ofText (linter.name ++ ".cmd")).text]

/-- The first path that leads to a regular file. A path that cannot be looked at is passed over with
a record, as is one that leads to something else; only a path with a NUL character is an error. -/
def firstRegular (w : World) : List String → Logged (Except FileFault (Option String))
  | [] => pure (.ok none)
  | path :: paths =>
    match w.status path with
    | .error .nulInPath => pure (.error .nulInPath)
    | .error (.refused e) => do
      Logged.note .debug .binder s!"Project linter {path} not usable: {e.message}"
      firstRegular w paths
    | .ok node =>
      if node.isRegular then pure (.ok (some path))
      else do
        Logged.note .debug .binder s!"{path} is not a regular file"
        firstRegular w paths

/-- The linter of that name on the program path, or its bare name. -/
def installedLinter (w : World) (linter : Linter) : String :=
  match w.search linter.name with
  | some path => if path.isEmpty then linter.name else path
  | none => linter.name

/-- The linter of a project, or the installed one where there is no project. -/
def locateLinter (w : World) (root : Option String) (linter : Linter) (platform : Platform) :
    Logged (Except FileFault String) :=
  match root with
  | none => pure (.ok (installedLinter w linter))
  | some root =>
    if root.isEmpty then pure (.ok (installedLinter w linter))
    else do
      match ← firstRegular w (candidates root linter platform) with
      | .error e => return .error e
      | .ok (some path) => return .ok path
      | .ok none =>
        Logged.note .debug .binder
          s!"No project linter under {root}, using default {linter.name}"
        return .ok (installedLinter w linter)

end ProjectLint
