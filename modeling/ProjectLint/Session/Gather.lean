import ProjectLint.Session.Call

/-!
# Overlapping calls

Several calls can be under way at the same time. Each one starts as a whole, in the order in which
the calls were made; only a call with a callback is put off until the others have started. A
process that was started ends when its time has come, and then its call finishes. A call without a
process finishes as soon as it has started.

## Main definitions

* `Session.Entry`: a call under way.
* `Session.startAll`: the starts of several calls, one after another.
* `Session.gather`: several calls from start to finish.
-/

namespace ProjectLint.Session

open Log

/-- Whether a call is put off until the others have started. -/
def Call.isDeferred : Call → Bool
  | lintTo .. => true
  | fixTo .. => true
  | _ => false

/-- How far a call has come. -/
inductive Progress
  /-- It has its answer. -/
  | finished (answer : Answer)
  /-- Its process runs. -/
  | running (job : Job) (child : Execution.Child)

/-- A call under way: its place among the calls, and how far it has come. -/
structure Entry where
  index : Nat
  progress : Progress

/-- What several starts have come to. -/
structure Launched where
  session : Session
  entries : List Entry
  runs : List Execution.Run
  rest : List Execution.Behaviour
  log : List Record

/-- The child that a job comes to, if it starts. -/
def Job.child? (job : Job) : Execution.Behaviour → Option Execution.Child
  | .refused _ => none
  | .starts child => if job.request.fault?.isSome then none else some child

/-- The start of one call. A process that is not started is finished with at once. -/
def launch (w : World) (l : Launched) (index : Nat) (call : Call) : Launched :=
  let started := l.session.start w call
  match started.value with
  | (.done answer, s) =>
    { l with
      session := s
      entries := l.entries ++ [⟨index, .finished answer⟩]
      log := l.log ++ started.log }
  | (.waiting job, s) =>
    let behaviour := nextBehaviour l.rest
    let runs := l.runs ++ [job.run behaviour]
    match job.child? behaviour with
    | none =>
      let finished := job.finish s.settings behaviour
      { session := s
        entries := l.entries ++ [⟨index, .finished finished.value⟩]
        runs := runs
        rest := l.rest.tail
        log := l.log ++ started.log ++ finished.log }
    | some child =>
      { session := s
        entries := l.entries ++ [⟨index, .running job child⟩]
        runs := runs
        rest := l.rest.tail
        log := l.log ++ started.log }

/-- The calls with their places, the deferred ones last. -/
def startOrder (calls : List Call) : List (Nat × Call) :=
  let indexed := calls.zipIdx.map fun ci => (ci.2, ci.1)
  indexed.filter (fun ic => !ic.2.isDeferred) ++ indexed.filter fun ic => ic.2.isDeferred

/-- The starts of several calls, one after another. -/
def startAll (s : Session) (w : World) (calls : List Call) (behaviours : List Execution.Behaviour) :
    Launched :=
  (startOrder calls).foldl (fun l ic => launch w l ic.1 ic.2) ⟨s, [], [], behaviours, []⟩

/-- When a process ends; a call that has finished waits for none. -/
def Entry.delay? (e : Entry) : Option Nat :=
  match e.progress with
  | .finished _ => none
  | .running _ child => some child.delay

/-- The entries in the order in which their calls finish: first the ones that finished with their
start, then the others as their processes end. -/
def finishOrder (entries : List Entry) : List Entry :=
  entries.filter (·.delay?.isNone) ++
    (entries.filter (·.delay?.isSome)).mergeSort fun x y => x.delay?.getD 0 ≤ y.delay?.getD 0

/-- The finish of an entry: its place and its answer, with the records that are made now. -/
def Entry.finish (settings : Settings) (e : Entry) : Logged (Nat × Answer) :=
  match e.progress with
  | .finished answer => pure (e.index, answer)
  | .running job child => (fun answer => (e.index, answer)) <$> job.finish settings (.starts child)

/-- What came of several calls. -/
structure Gathered where
  session : Session
  /-- The answers, with the places of their calls, in the order in which the calls finished. -/
  finished : List (Nat × Answer)
  runs : List Execution.Run
  log : List Record

/-- Several calls from start to finish, where children behave as listed in the order in which they
are started. -/
def gather (s : Session) (w : World) (calls : List Call) (behaviours : List Execution.Behaviour) :
    Gathered :=
  let launched := s.startAll w calls behaviours
  let finished := (finishOrder launched.entries).map (Entry.finish s.settings)
  { session := launched.session
    finished := finished.map (·.value)
    runs := launched.runs
    log := launched.log ++ finished.flatMap (·.log) }

/-- The answers of gathered calls in the order in which the calls were made. -/
def Gathered.answers (g : Gathered) (count : Nat) : List Answer :=
  (List.range count).filterMap fun i => g.finished.lookup i

end ProjectLint.Session
