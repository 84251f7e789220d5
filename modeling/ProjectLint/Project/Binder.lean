import ProjectLint.Project.Context
import ProjectLint.Project.Locate

/-!
# Binding projects

A binder keeps the active project and the search path. Binding another project takes the directory
of the previous one out of the search path and puts the new one's in front. If the new root is no
directory nothing changes.

## Main definitions

* `Binder`: the active project and the search path.
* `Binder.ofEnvironment`: the binder at the beginning of a session.
* `Binder.bind`: makes a project the active one.

## Main results

* `Binder.bind_error`: a binding that fails changes nothing.
-/

namespace ProjectLint

open Log

/-- Why a project cannot be bound. -/
inductive BindFault
  /-- The root is no directory. -/
  | unusable (root reason : String)
  /-- The place of the linter cannot be looked at. -/
  | file (e : FileFault)
  deriving DecidableEq, Repr

/-- The wording of a fault. -/
def BindFault.message : BindFault → String
  | unusable root reason => s!"Cannot bind project root {Text.quoted root}: {reason}"
  | file e => e.message

/-- The active project and the search path. -/
structure Binder where
  linter : Linter
  searchPath : List String
  /-- The directory in which a linter runs when there is no project. -/
  defaultDirectory : String
  platform : Platform
  activeRoot : Option String
  deriving DecidableEq, Repr

namespace Binder

/-- The binder at the beginning of a session: the search path is the one of the given variables,
and no project is active. -/
def ofEnvironment (w : World) (linter : Linter) (environment : Option Environment)
    (defaultDirectory : Option String) (platform : Platform) : Binder :=
  let environment := environment.getD w.environment
  { linter := linter
    searchPath := SearchPath.split SearchPath.separator (environment.get? linter.searchVariable)
    defaultDirectory := match defaultDirectory with
      | some d => if d.isEmpty then w.directory else d
      | none => w.directory
    platform := platform
    activeRoot := none }

/-- A text that is given and not empty. -/
def given (s : Option String) : Option String := s.filter fun s => !s.isEmpty

/-- The root to bind: the new one if it is given, else the active one. -/
def target (b : Binder) (new : Option String) : Option String :=
  ((given new).or b.activeRoot).map (normalizeRoot b.platform)

/-- The directory of a project's modules. -/
def moduleDirectory (b : Binder) (w : World) (root : String) : String :=
  ProjectLint.moduleDirectory w.directory b.linter b.platform root

/-- The search path after a change of projects. -/
def rebound (b : Binder) (w : World) (root previous : Option String) : List String :=
  SearchPath.rebind b.searchPath ((given previous).map (b.moduleDirectory w))
    (root.map (b.moduleDirectory w))

/-- The context of a project with a given linter. -/
def context (b : Binder) (root : Option String) (linterPath : String) (searchPath : List String) :
    ProjectContext :=
  { root := root
    linterPath := linterPath
    searchPath := searchPath
    workingDirectory := root.getD b.defaultDirectory
    searchVariable := b.linter.searchVariable }

/-- Makes a project the active one. Without a new root the active project is bound once more. -/
def bind (b : Binder) (w : World) (new previous : Option String) :
    Logged (Except BindFault ProjectContext × Binder) :=
  let root := b.target new
  match root.filter fun r => !w.isDirectory r with
  | some r => pure (.error (.unusable r "not an existing directory"), b)
  | none => do
    match ← locateLinter w root b.linter b.platform with
    | .error e => return (.error (.file e), b)
    | .ok linterPath =>
      let shown := root.getD "<none>"
      Logged.note .debug .binder s!"Bound project {shown} using linter {linterPath}"
      let searchPath := b.rebound w root previous
      return (.ok (b.context root linterPath searchPath),
        { b with searchPath := searchPath, activeRoot := root })

/-- A binding that fails changes nothing. -/
theorem bind_error {b : Binder} {w : World} {new previous : Option String} {e : BindFault}
    (h : (b.bind w new previous).value.1 = .error e) : (b.bind w new previous).value.2 = b := by
  unfold bind at *
  dsimp only at *
  split
  · rfl
  · next hd =>
    rw [hd] at h
    simp only [Logged.value_bind] at *
    split
    · rfl
    · next hl =>
      rw [hl] at h
      simp at h

end Binder

end ProjectLint
