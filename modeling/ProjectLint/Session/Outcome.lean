import ProjectLint.Execution.Basic
import ProjectLint.Project.Binder
import ProjectLint.Report.Basic

/-!
# Outcomes

How a request to check or to correct a file ended. A failure is part of an outcome; only a fault
that no outcome describes ends a call otherwise.

## Main definitions

* `Status`: the three ways in which a request ends.
* `CallFailure`: the failure that an outcome carries.
* `LintOutcome`, `FixOutcome`: the outcomes of the two requests.
* `Fault`: what leaves a call without an outcome.
-/

namespace ProjectLint.Session

/-- How a request ended. -/
inductive Status
  /-- The linter ran to its end. -/
  | ok
  /-- The linter could not be run to its end. -/
  | toolFailed
  /-- The project could not be bound. -/
  | contextUnresolved
  deriving DecidableEq, Repr

namespace Status

/-- The name of a status. -/
def name : Status → String
  | ok => "ok"
  | toolFailed => "tool_failed"
  | contextUnresolved => "context_unresolved"

/-- The status of a given name. -/
def ofName? : String → Option Status
  | "ok" => some ok
  | "tool_failed" => some toolFailed
  | "context_unresolved" => some contextUnresolved
  | _ => none

/-- A status is found by its name. -/
@[simp] theorem ofName?_name : (s : Status) → ofName? s.name = some s
  | ok => rfl
  | toolFailed => rfl
  | contextUnresolved => rfl

end Status

/-- The failure that an outcome carries. -/
inductive CallFailure
  /-- The root of the project is unusable. -/
  | context (root reason : String)
  /-- The run of the linter failed. -/
  | tool (e : Execution.Failure)
  deriving DecidableEq, Repr

/-- The wording of a failure. -/
def CallFailure.message : CallFailure → String
  | context root reason => (BindFault.unusable root reason).message
  | tool e => e.message

/-- How a request to check a file ended. -/
structure LintOutcome where
  status : Status
  report : Report := .empty
  failure : Option CallFailure := none
  deriving DecidableEq, Repr

/-- How a request to correct a file ended. -/
structure FixOutcome where
  status : Status
  /-- The exit status of the linter. -/
  exitStatus : Option Int := none
  failure : Option CallFailure := none
  deriving DecidableEq, Repr

/-- A request that ended well. -/
def LintOutcome.isOk (o : LintOutcome) : Bool := o.status = .ok

/-- A request that ended well. -/
def FixOutcome.isOk (o : FixOutcome) : Bool := o.status = .ok

/-- What leaves a call without an outcome. -/
inductive Fault
  /-- A path that no system call accepts. -/
  | file (e : FileFault)
  /-- A process that cannot be asked for, or not waited for. -/
  | run (e : Execution.Fault)
  /-- A number in the output that is too long to be read. -/
  | number (e : Text.Numeral.TooLong)
  /-- The call is cancelled. -/
  | cancelled
  /-- The call waits for a process that never ends. It is given up here only so that what follows
  it can be told. -/
  | unending
  deriving DecidableEq, Repr

/-- The wording of a fault. -/
def Fault.message : Fault → String
  | file e => e.message
  | run e => e.message
  | number e => e.message
  | cancelled => ""
  | unending => ""

end ProjectLint.Session
