import Mathlib.Data.List.Induction
import ProjectLint.Proofs.Session.ContextFor

/-!
# Calls one after another

The plainest way to make several calls is to wait for each one before the next is made. What is
known of a call is its answer and, if it had a process, what was asked of the system; both are kept
with the place of the call.

## Main definitions

* `Session.Sequence`: what several calls have come to.
* `Session.inSequence`: several calls in one world, one after another.

## Main results

* `Sequence.next_of_done`, `Sequence.next_of_waiting`: what one more call comes to.
* `length_answers`: every call has one answer.
-/

namespace ProjectLint

namespace Session

/-- The session that the start of a call leaves behind has the same settings. -/
theorem settings_of_start {s s' : Session} {w : World} {call : Call} {started : Started}
    (h : (s.start w call).value = (started, s')) : s'.settings = s.settings := by
  have hsettings := start_settings s w call
  rwa [h] at hsettings

/-- What several calls have come to. Answers and requests have the places of their calls. -/
structure Sequence where
  session : Session
  answers : List (Nat × Answer)
  requests : List (Nat × Execution.Request)
  /-- The behaviours that were not used up. -/
  rest : List Execution.Behaviour

namespace Sequence

/-- Nothing has been called. -/
def first (s : Session) (behaviours : List Execution.Behaviour) : Sequence :=
  ⟨s, [], [], behaviours⟩

/-- One more call, from its start to its finish. -/
def next (w : World) (q : Sequence) (call : Call) : Sequence :=
  let p := q.session.perform w call q.rest
  { session := p.session
    answers := q.answers ++ [(q.answers.length, p.answer)]
    requests := q.requests ++ p.run.toList.map fun r => (q.answers.length, r.request)
    rest := p.rest }

variable {w : World} {q : Sequence} {call : Call} {s : Session}

theorem next_session (w : World) (q : Sequence) (call : Call) :
    (q.next w call).session = (q.session.contextFor w call.root).value.2 :=
  perform_session q.session w call q.rest

/-- A call that is over with its start asks nothing of the system. -/
theorem next_of_done {answer : Answer} (h : (q.session.start w call).value = (.done answer, s)) :
    q.next w call = ⟨s, q.answers ++ [(q.answers.length, answer)], q.requests, q.rest⟩ := by
  simp [next, perform, h]

/-- A call that waits for a process has asked for it, and the process answers. -/
theorem next_of_waiting {job : Job} (h : (q.session.start w call).value = (.waiting job, s)) :
    q.next w call =
      ⟨s, q.answers ++
        [(q.answers.length, (job.finish q.session.settings (nextBehaviour q.rest)).value)],
        q.requests ++ [(q.answers.length, job.request)], q.rest.tail⟩ := by
  simp [next, perform, h, Job.run, Execution.run]

end Sequence

/-- Several calls in one world, one after another, where children behave as listed in the order in
which they are started. -/
def inSequence (s : Session) (w : World) (calls : List Call)
    (behaviours : List Execution.Behaviour) : Sequence :=
  calls.foldl (Sequence.next w) (.first s behaviours)

variable {s : Session} {w : World} {behaviours : List Execution.Behaviour}

theorem inSequence_snoc (calls : List Call) (call : Call) :
    s.inSequence w (calls ++ [call]) behaviours =
      (s.inSequence w calls behaviours).next w call := by
  rw [inSequence, List.foldl_append]
  rfl

/-- Every call has one answer. -/
theorem length_answers (calls : List Call) :
    (s.inSequence w calls behaviours).answers.length = calls.length := by
  induction calls using List.reverseRecOn with
  | nil => rfl
  | append_singleton calls call ih => simp [inSequence_snoc, Sequence.next, ih]

end Session

end ProjectLint
