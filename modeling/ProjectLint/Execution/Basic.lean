import ProjectLint.Number.Decimal
import ProjectLint.Text.Numeral
import ProjectLint.World.Environment
import ProjectLint.World.SystemError

/-!
# Child processes

A child process is asked for by a request, and behaves in some way that the program cannot
foresee.

## Main definitions

* `Execution.Request`: what to start.
* `Execution.Behaviour`: what then happens.
* `Execution.Limit`: for how long a child may run.
* `Execution.Failure`: how a run can fail.
* `Execution.Fault`: what ends a run that has neither a result nor a failure.
* `Execution.Ending`: how a run ends.
-/

namespace ProjectLint.Execution

/-- What to start, and how. -/
structure Request where
  /-- The program and its arguments. -/
  command : List String
  /-- The directory in which the child runs, if it is not the program's own. -/
  directory : Option String
  /-- The variables that the child receives, if they are not the program's own. -/
  environment : Option Environment
  /-- Whether the output of the child is read. -/
  capture : Bool
  deriving DecidableEq, Repr

/-- The program that a request names. -/
def Request.program (r : Request) : String := r.command.headD ""

/-- The variables of a request. -/
def Request.variables (r : Request) : List (String × String) :=
  (r.environment.map Environment.vars).getD []

/-- All texts of a request that are handed to the system. -/
def Request.texts (r : Request) : List String :=
  r.command ++ r.directory.toList ++ r.variables.flatMap fun v => [v.1, v.2]

/-- What a child does if nothing stops it. -/
inductive Fate
  /-- It ends, before any positive limit. -/
  | ends
  /-- It goes on until it is stopped. -/
  | endless
  /-- Its output cannot be waited for: the wait itself comes to a timeout, with or without a
  limit. -/
  | stalls
  deriving DecidableEq, Repr

/-- A child that has been started. -/
structure Child where
  fate : Fate
  /-- What it writes to its standard output. -/
  output : List UInt8
  /-- What it writes to its standard error. -/
  errors : List UInt8
  /-- The status it ends with, if it is known. -/
  status : Option Int
  /-- Whether it is already gone when it is to be stopped. -/
  vanishes : Bool
  /-- When it ends, as compared with other children. -/
  delay : Nat
  deriving DecidableEq, Repr

/-- What happens when a child is to be started. -/
inductive Behaviour
  /-- The system refuses to start it. -/
  | refused (cause : SystemError.Cause)
  /-- It starts. -/
  | starts (child : Child)
  deriving DecidableEq, Repr

/-- A number of seconds. -/
inductive Limit
  | whole (seconds : Int)
  | real (seconds : Binary64)
  deriving DecidableEq, Repr

namespace Limit

/-- A limit that is over before it begins. What is not a number gives no time either. -/
def isOver : Limit → Bool
  | whole n => n ≤ 0
  | real x => !x.isPositive

/-- A limit that no clock can be set to. -/
def isTooLarge : Limit → Bool
  | whole n => 0 < n && (Binary64.ofInt? n).isNone
  | real _ => false

/-- A limit that is over after some time. -/
def isFinite : Limit → Bool
  | whole _ => true
  | real (.infinite _) => false
  | real _ => true

/-- A limit of zero seconds. -/
def isZero : Limit → Bool
  | whole n => n = 0
  | real x => x.isZero

/-- The text of a limit. -/
def text : Limit → String
  | whole n => toString n
  | real x => x.text

/-- Whether a limit can be written: a whole number must not have too many digits. -/
def isWritable : Limit → Bool
  | whole n => Text.Numeral.isWritable n
  | real _ => true

/-- The limit that is reported for a run: none at all counts as zero, and so does any zero. -/
def reported : Option Limit → Limit
  | none => .whole 0
  | some l => if l.isZero then .whole 0 else l

end Limit

/-- How a run can fail. -/
inductive Failure
  /-- The child could not be started. -/
  | notStarted (command : List String) (cause : SystemError.Cause)
  /-- The child did not end in time. -/
  | timedOut (command : List String) (limit : Limit)
  deriving DecidableEq, Repr

namespace Failure

/-- The command that a failure is about. -/
def command : Failure → List String
  | notStarted command _ => command
  | timedOut command _ => command

/-- The wording of a failure. -/
def message : Failure → String
  | notStarted command cause =>
    let program := command.headD ""
    s!"Failed to start {program}: " ++ (SystemError.mk cause program).message
  | timedOut command limit =>
    let program := command.headD "process"
    s!"{program} timed out after {limit.text} seconds"

end Failure

/-- What ends a run that has neither a result nor a failure. -/
inductive Fault
  /-- A text of the request has a NUL character, with which no text can be handed to the system. -/
  | nulInRequest
  /-- The name of a variable has an equals sign, with which names end. -/
  | variableName
  /-- No clock can be set to the limit. -/
  | limitTooLarge
  /-- The limit has too many digits to be told. -/
  | limitUnwritable
  deriving DecidableEq, Repr

/-- The wording of a fault. -/
def Fault.message : Fault → String
  | nulInRequest => "embedded null byte"
  | variableName => "illegal environment variable name"
  | limitTooLarge => "int too large to convert to float"
  | limitUnwritable => Text.Numeral.unwritableText

/-- What is wrong with a request, so that the system is not even asked. -/
def Request.fault? (r : Request) : Option Fault :=
  if ∃ v ∈ r.variables, '=' ∈ v.1.toList then some .variableName
  else if ∃ text ∈ r.texts, '\x00' ∈ text.toList then some .nulInRequest
  else none

/-- What a child that ended by itself leaves. -/
structure Result where
  /-- The exit status, and minus one where it is not known. -/
  status : Int
  output : String
  errors : String
  deriving DecidableEq, Repr

/-- How a run ends. -/
inductive Ending
  /-- The child has ended by itself. -/
  | ended (result : Result)
  /-- The child could not be started, or did not end in time. -/
  | failed (e : Failure)
  /-- The call was cancelled while the child ran. -/
  | cancelled
  | fault (e : Fault)
  deriving DecidableEq, Repr

end ProjectLint.Execution
