import ProjectLint.Session.Outcome

/-!
# The state of a session

A session remembers the project that it bound last. As long as the same project is asked for, its
context is used again; after a failure, or for another project, the binder is asked.

## Main definitions

* `BindState`: whether the bound project can be used again.
* `BindState.needsBind`, `BindState.next`: the machine of two states.
* `Session`: settings, binder, state and the context bound last.
* `Session.contextFor`: the context of a project, bound first where that is needed.
-/

namespace ProjectLint

open Log

/-- Whether the bound project can be used again. -/
inductive BindState
  | clean
  | dirty
  deriving DecidableEq, Repr

namespace BindState

/-- The name of a state. -/
def name : BindState → String
  | clean => "clean"
  | dirty => "dirty"

/-- The state of a given name. -/
def ofName? : String → Option BindState
  | "clean" => some clean
  | "dirty" => some dirty
  | _ => none

/-- A project has to be bound after a failure, and when it is not the one bound before. -/
def needsBind (state : BindState) (bound : Option String) (requested : String) : Bool :=
  state = dirty || bound ≠ some requested

/-- The state after a call, where `succeeded` is `none` if no project was bound. A binding that
fails leaves the state dirty, so the next call tries again. -/
def next (state : BindState) (bound : Option String) (requested : String)
    (succeeded : Option Bool) : BindState :=
  if state.needsBind bound requested then (if succeeded = some true then clean else dirty)
  else state

/-- A state is found by its name. -/
@[simp] theorem ofName?_name : (s : BindState) → ofName? s.name = some s
  | clean => rfl
  | dirty => rfl

/-- After a failure every project has to be bound. -/
@[simp] theorem needsBind_dirty (bound : Option String) (requested : String) :
    dirty.needsBind bound requested = true := rfl

@[simp] theorem next_dirty (bound : Option String) (requested : String) (succeeded : Option Bool) :
    dirty.next bound requested succeeded = if succeeded = some true then clean else dirty := rfl

end BindState

/-- What a session remembers between calls. -/
structure Session where
  settings : Settings
  binder : Binder
  state : BindState
  /-- The root for which a project was bound last. -/
  boundRoot : Option String
  /-- The context that was bound last. -/
  context : Option ProjectContext
  deriving DecidableEq, Repr

namespace Session

/-- A session before its first call. -/
def new (settings : Settings) (binder : Binder) : Session :=
  { settings := settings, binder := binder, state := .dirty, boundRoot := none, context := none }

/-- A session before its first call, with a binder for its own settings. -/
def ofSettings (w : World) (settings : Settings) : Session :=
  new settings (.ofEnvironment w settings.linter none none .posix)

/-- The root under which a project is remembered. -/
def requested (root : String) : String := normalizeRoot .posix root

/-- The context that can be used again for a root. -/
def stored? (s : Session) (root : String) : Option ProjectContext :=
  if s.state.needsBind s.boundRoot (requested root) then none else s.context

/-- Binds a project and remembers it. A failure leaves the session dirty; only a fault that is no
failure of the project leaves it as it was. -/
def bind (s : Session) (w : World) (root : String) :
    Logged (Except BindFault ProjectContext × Session) := do
  match ← s.binder.bind w (some (requested root)) s.boundRoot with
  | (.error (.unusable r reason), binder) =>
    let message := (BindFault.unusable r reason).message
    Logged.note .error .session s!"Error binding project root: {message}"
    return (.error (.unusable r reason),
      { s with
        binder := binder
        state := BindState.dirty.next s.boundRoot (requested root) (some false) })
  | (.error e, binder) => return (.error e, { s with binder := binder })
  | (.ok context, binder) =>
    return (.ok context,
      { s with
        binder := binder
        context := some context
        state := BindState.dirty.next s.boundRoot (requested root) (some true)
        boundRoot := some (requested root) })

/-- The context of a project: the stored one where it can be used again, else a new one. -/
def contextFor (s : Session) (w : World) (root : String) :
    Logged (Except BindFault ProjectContext × Session) :=
  match s.stored? root with
  | some context =>
    pure (.ok context,
      { s with state := s.state.next s.boundRoot (requested root) none })
  | none => s.bind w root

end Session

end ProjectLint
