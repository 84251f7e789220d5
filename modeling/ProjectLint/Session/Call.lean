import ProjectLint.Execution.Run
import ProjectLint.Session.Command
import ProjectLint.Session.State

/-!
# Calls of a session

A call has two steps. Its start finds the context of the project and says what process is to be
run; nothing of another call comes in between. Its finish turns what the process did into an
answer. The finish neither reads nor changes the session, so the order in which processes end is
of no consequence for any later call.

## Main definitions

* `Call`: what a session can be asked.
* `Job`: a process to be run, and what its result is for.
* `Answer`: what comes of a call.
* `Session.start`, `Job.finish`: the two steps.
* `Session.perform`: both steps of one call.

## Main results

* `Session.start_settings`: a call does not change the settings.
-/

namespace ProjectLint

open Log

namespace Session

/-- What the receiver of an answer does with it. -/
inductive Callback
  /-- It takes the answer. -/
  | accepts
  /-- It fails, after it has received the answer. -/
  | fails (kind : String)
  deriving DecidableEq, Repr

/-- What a session can be asked. A runtime that is not given is the one of the settings. -/
inductive Call
  /-- The context of a project. -/
  | context (root : String)
  /-- A check of a file. -/
  | lint (root file : String) (runtime : Option String)
  /-- A correction of a file. -/
  | fix (root file : String) (runtime : Option String)
  /-- The version of a project's linter. -/
  | version (root : String) (runtime : Option String)
  /-- A check whose outcome is handed to a callback. -/
  | lintTo (callback : Callback) (root file : String) (runtime : Option String)
  /-- A correction whose outcome is handed to a callback. -/
  | fixTo (callback : Callback) (root file : String) (runtime : Option String)
  deriving DecidableEq, Repr

/-- The root of the project that a call is about. -/
def Call.root : Call → String
  | context root => root
  | lint root _ _ => root
  | fix root _ _ => root
  | version root _ => root
  | lintTo _ root _ _ => root
  | fixTo _ root _ _ => root

/-- What the result of a process is for. -/
inductive Task
  | lint (file : String)
  | fix
  | version
  | lintTo (callback : Callback) (file : String)
  | fixTo (callback : Callback)
  deriving DecidableEq, Repr

/-- A process to be run, and what its result is for. -/
structure Job where
  task : Task
  request : Execution.Request
  limit : Option Execution.Limit
  deriving DecidableEq, Repr

/-- What the callback of a check receives. -/
structure LintDelivery where
  failure : Option CallFailure
  report : Option Report
  deriving DecidableEq, Repr

/-- What the callback of a correction receives. -/
structure FixDelivery where
  failure : Option CallFailure
  deriving DecidableEq, Repr

/-- What comes of a call. A call with a callback hands over what it lists, and may end in a fault
before it hands over anything. -/
inductive Answer
  | context (result : Except BindFault ProjectContext)
  | lint (result : Except Fault LintOutcome)
  | fix (result : Except Fault FixOutcome)
  | version (result : Except Fault String)
  | lintTo (deliveries : List LintDelivery) (fault : Option Fault)
  | fixTo (deliveries : List FixDelivery) (fault : Option Fault)

/-! ### Outcomes -/

/-- A record of a session. -/
def record (level : Level) (message : String) : Logged Unit := .note level .session message

/-- The outcome of a check whose run has ended. -/
def lintOutcome (linter : Linter) (file : String) :
    Except Execution.Failure Execution.Result → Logged (Except Fault LintOutcome)
  | .error e => do
    record .error s!"Failed to run {linter.name}: {e.message}"
    return .ok { status := .toolFailed, failure := some (.tool e) }
  | .ok result =>
    match Report.ofOutput result.output with
    | .error e => pure (.error (.number e))
    | .ok report => do
      let errors := report.count .error
      let warnings := report.count .warning
      record .info (s!"{linter.name} found {report.length} problems in {file} " ++
        s!"({errors} errors, {warnings} warnings)")
      return .ok { status := .ok, report := report }

/-- The outcome of a correction whose run has ended. -/
def fixOutcome (linter : Linter) :
    Except Execution.Failure Execution.Result → Logged (Except Fault FixOutcome)
  | .error e => do
    record .error s!"Failed to run {linter.name} fix: {e.message}"
    return .ok { status := .toolFailed, failure := some (.tool e) }
  | .ok result => pure (.ok { status := .ok, exitStatus := some result.status })

/-- The record of a version that could not be found out. -/
def versionRecord (linter : Linter) (reason : String) : Logged Unit :=
  record .debug s!"Could not determine {linter.name} version: {reason}"

/-- The version that a run has printed. A run with an exit status other than zero tells nothing. -/
def versionAnswer (linter : Linter) :
    Except Execution.Failure Execution.Result → Logged (Except Fault String)
  | .error e => do
    versionRecord linter e.message
    return .ok Command.unknownVersion
  | .ok result =>
    pure (.ok (if result.status = 0 then Command.readVersion result.output
      else Command.unknownVersion))

/-! ### Callbacks -/

/-- Hands something to a callback. Its failure is recorded and goes no further. -/
def Callback.invoke : Callback → Logged Unit
  | accepts => pure ()
  | fails kind =>
    ⟨(), [⟨.error, .session, "Host callback raised an exception", some kind⟩]⟩

/-- What a callback receives for the outcome of a check: the failure, if failures are surfaced, and
otherwise the report. -/
def LintOutcome.delivery (surfaceErrors : Bool) (o : LintOutcome) : LintDelivery :=
  match o.failure with
  | some e => if surfaceErrors then ⟨some e, none⟩ else ⟨none, some o.report⟩
  | none => ⟨none, some o.report⟩

/-- What a callback receives for the outcome of a correction: the failure, if failures are
surfaced. -/
def FixOutcome.delivery (surfaceErrors : Bool) (o : FixOutcome) : FixDelivery :=
  ⟨if surfaceErrors then o.failure else none⟩

/-- Hands the outcome of a check to a callback. -/
def deliverLint (surfaceErrors : Bool) (callback : Callback) :
    Except Fault LintOutcome → Logged Answer
  | .error e => pure (.lintTo [] (some e))
  | .ok o => do
    callback.invoke
    return .lintTo [o.delivery surfaceErrors] none

/-- Hands the outcome of a correction to a callback. -/
def deliverFix (surfaceErrors : Bool) (callback : Callback) :
    Except Fault FixOutcome → Logged Answer
  | .error e => pure (.fixTo [] (some e))
  | .ok o => do
    callback.invoke
    return .fixTo [o.delivery surfaceErrors] none

/-! ### The finish of a call -/

/-- What a call sees of the ending of its run: a result or a failure, and otherwise a fault. -/
def seen : Option Execution.Ending → Except Fault (Except Execution.Failure Execution.Result)
  | some (.ended result) => .ok (.ok result)
  | some (.failed e) => .ok (.error e)
  | some .cancelled => .error .cancelled
  | some (.fault e) => .error (.run e)
  | none => .error .unending

/-- What comes of a run that has ended. A fault is passed on. -/
def conclude {α : Type}
    (ofResult : Except Execution.Failure Execution.Result → Logged (Except Fault α))
    (ending : Option Execution.Ending) : Logged (Except Fault α) :=
  match seen ending with
  | .ok result => ofResult result
  | .error e => pure (.error e)

/-- A call comes to an outcome only if it sees a result or a failure. -/
theorem seen_of_conclude {α : Type} {a : α} {ending : Option Execution.Ending}
    {ofResult : Except Execution.Failure Execution.Result → Logged (Except Fault α)}
    (h : (conclude ofResult ending).value = .ok a) : ∃ result, seen ending = .ok result := by
  rw [conclude] at h
  split at h
  · next result hseen => exact ⟨result, hseen⟩
  · simp at h

/-- The answer of a call whose run has come to an ending. -/
def Task.answer (settings : Settings) (ending : Option Execution.Ending) : Task → Logged Answer
  | lint file => Answer.lint <$> conclude (lintOutcome settings.linter file) ending
  | fix => Answer.fix <$> conclude (fixOutcome settings.linter) ending
  | version => Answer.version <$> conclude (versionAnswer settings.linter) ending
  | lintTo callback file => do
    deliverLint settings.surfaceErrors callback
      (← conclude (lintOutcome settings.linter file) ending)
  | fixTo callback => do
    deliverFix settings.surfaceErrors callback (← conclude (fixOutcome settings.linter) ending)

/-- The run of a job's process. -/
def Job.run (job : Job) (behaviour : Execution.Behaviour) : Execution.Run :=
  Execution.run job.request job.limit .none behaviour

/-- The finish of a call: its process runs, and what comes of it becomes the answer. -/
def Job.finish (settings : Settings) (job : Job) (behaviour : Execution.Behaviour) :
    Logged Answer :=
  let run := job.run behaviour
  let answer := job.task.answer settings run.ending
  ⟨answer.value, run.log ++ answer.log⟩

/-! ### The start of a call -/

/-- What has come of a call when its start is over. -/
inductive Started
  /-- It has its answer, and nothing was run. -/
  | done (answer : Answer)
  /-- It waits for a process. -/
  | waiting (job : Job)

/-- The answer of a call whose project could not be bound. -/
def unbound (settings : Settings) : Call → BindFault → Logged Answer
  | .context _, e => pure (.context (.error e))
  | .lint .., .unusable root reason =>
    pure (.lint (.ok { status := .contextUnresolved, failure := some (.context root reason) }))
  | .lint .., .file e => pure (.lint (.error (.file e)))
  | .fix .., .unusable root reason =>
    pure (.fix (.ok { status := .contextUnresolved, failure := some (.context root reason) }))
  | .fix .., .file e => pure (.fix (.error (.file e)))
  | .version .., .unusable root reason => do
    versionRecord settings.linter (BindFault.unusable root reason).message
    return .version (.ok Command.unknownVersion)
  | .version .., .file e => pure (.version (.error (.file e)))
  | .lintTo callback .., .unusable root reason =>
    deliverLint settings.surfaceErrors callback
      (.ok { status := .contextUnresolved, failure := some (.context root reason) })
  | .lintTo .., .file e => pure (.lintTo [] (some (.file e)))
  | .fixTo callback .., .unusable root reason =>
    deliverFix settings.surfaceErrors callback
      (.ok { status := .contextUnresolved, failure := some (.context root reason) })
  | .fixTo .., .file e => pure (.fixTo [] (some (.file e)))

/-- The request for a command in the context of a project. -/
def request (w : World) (context : ProjectContext) (command : List String) (capture : Bool) :
    Execution.Request :=
  { command := command
    directory := some context.workingDirectory
    environment := some (context.environment w.environment)
    capture := capture }

/-- The limit of a check or a correction. -/
def limit (settings : Settings) : Option Execution.Limit := settings.linter.timeout.map .real

/-- The limit of a question for the version. -/
def versionLimit : Execution.Limit := .whole 30

/-- The record of a command that is about to be run. -/
def running (command : List String) : Logged Unit :=
  let line := " ".intercalate command
  record .debug s!"Running: {line}"

/-- A call that waits for the check of a file. -/
def startLint (settings : Settings) (w : World) (context : ProjectContext) (file : String)
    (runtime : Option String) (task : Task) : Logged Started := do
  let command := Command.lint settings.linter context file (runtime.getD settings.runtime)
  running command
  return .waiting ⟨task, request w context command true, limit settings⟩

/-- A call that waits for the correction of a file. -/
def startFix (settings : Settings) (w : World) (context : ProjectContext) (file : String)
    (runtime : Option String) (task : Task) : Logged Started := do
  let command := Command.fix settings.linter context file (runtime.getD settings.runtime)
  running command
  return .waiting ⟨task, request w context command false, limit settings⟩

/-- What a call does once it has a context. -/
def Call.proceed (settings : Settings) (w : World) (context : ProjectContext) :
    Call → Logged Started
  | .context _ => pure (.done (.context (.ok context)))
  | lint _ file runtime => startLint settings w context file runtime (.lint file)
  | fix _ file runtime => startFix settings w context file runtime .fix
  | version _ runtime =>
    let command := Command.version context (runtime.getD settings.runtime)
    pure (.waiting ⟨.version, request w context command true, some versionLimit⟩)
  | lintTo callback _ file runtime =>
    startLint settings w context file runtime (.lintTo callback file)
  | fixTo callback _ file runtime => startFix settings w context file runtime (.fixTo callback)

/-- The start of a call: its project is bound where that is needed, and what is to be run is
fixed. -/
def start (s : Session) (w : World) (call : Call) : Logged (Started × Session) := do
  match ← s.contextFor w call.root with
  | (.error e, s') => return (.done (← unbound s.settings call e), s')
  | (.ok context, s') => return (← call.proceed s.settings w context, s')

/-! ### Whole calls -/

/-- What came of a call. -/
structure Performed where
  answer : Answer
  session : Session
  /-- The run of the call's process, if there was one. -/
  run : Option Execution.Run
  /-- The behaviours that were not used up. -/
  rest : List Execution.Behaviour
  log : List Record

/-- The behaviour of the next child. Where none is foreseen there is no program to start. -/
def nextBehaviour (behaviours : List Execution.Behaviour) : Execution.Behaviour :=
  behaviours.headD (.refused .notFound)

/-- Both steps of one call, where children behave as listed. -/
def perform (s : Session) (w : World) (call : Call) (behaviours : List Execution.Behaviour) :
    Performed :=
  let started := s.start w call
  match started.value with
  | (.done answer, s') => ⟨answer, s', none, behaviours, started.log⟩
  | (.waiting job, s') =>
    let behaviour := nextBehaviour behaviours
    let finished := job.finish s.settings behaviour
    ⟨finished.value, s', some (job.run behaviour), behaviours.tail, started.log ++ finished.log⟩

/-- A check is answered with the outcome of a check. -/
theorem perform_lint (s : Session) (w : World) (root file : String) (runtime : Option String)
    (behaviours : List Execution.Behaviour) :
    ∃ result, (s.perform w (.lint root file runtime) behaviours).answer = .lint result := by
  simp only [perform, start, Logged.value_bind, Call.root]
  rcases (s.contextFor w root).value with ⟨e | context, s'⟩
  · cases e <;> exact ⟨_, rfl⟩
  · exact ⟨_, rfl⟩

/-! ### What does not change -/

/-- Looking for a context does not change the settings. -/
theorem contextFor_settings (s : Session) (w : World) (root : String) :
    (s.contextFor w root).value.2.settings = s.settings := by
  unfold contextFor
  split
  · rfl
  · simp only [bind, Logged.value_bind]
    split <;> rfl

/-- A call does not change the settings. -/
theorem start_settings (s : Session) (w : World) (call : Call) :
    (s.start w call).value.2.settings = s.settings := by
  have h := contextFor_settings s w call.root
  simp only [start, Logged.value_bind]
  split
  · next hc => simpa [hc] using h
  · next hc => simpa [hc] using h

end Session

end ProjectLint
