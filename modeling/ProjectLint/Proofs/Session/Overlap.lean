import ProjectLint.Proofs.Session.Sequence
import ProjectLint.Session.Gather

/-!
# Overlapping calls behave like sequential ones

Calls that are made at the same time start in the order in which they were made, and each start is a
whole: the project is bound, the context is taken, and the process is asked for. What comes later is
in no order: any process that runs may be the next one to end. The session is shared, so a call can
find at its finish that others have bound other projects since its start.

Whatever the order, the calls come to what they would have come to one after another. A finish
leaves the session alone, so every start meets the session that the starts before it have left; and
what a finish reads of the session no start changes. At any moment the answers that were given,
together with the ones that the running processes will give, are those of the calls that have begun.

## Main definitions

* `Session.Overlap`: calls that wait, calls under way and calls that are over.
* `Session.Move`: the next thing that happens, and `Overlap.run`, what several moves come to.
* `Overlap.Matches`: how overlapping calls are related to calls one after another.

## Main results

* `Overlap.Matches.launch`, `Overlap.Matches.finish`: what each move preserves.
* `Overlap.isOver_starts_finishes`: the calls can finish in any order.
* `interleaved_eq_inSequence`: overlapping calls come to what sequential ones do.
* `gather_eq_inSequence`: gathered calls are overlapping ones.
-/

namespace ProjectLint.Session

/-! ### Interleavings -/

/-- A call whose process was asked for: the place of the call, what waits for the process, and how
the process behaves. -/
structure Underway where
  index : Nat
  job : Job
  behaviour : Execution.Behaviour

/-- The answer that a call under way will give, with its place. -/
def Underway.answer (settings : Settings) (u : Underway) : Nat × Answer :=
  (u.index, (u.job.finish settings u.behaviour).value)

/-- Several calls at the same time. -/
structure Overlap where
  session : Session
  /-- How many calls have begun. -/
  begun : Nat
  /-- The calls that have not begun, in the order in which they were made. -/
  waiting : List Call
  underway : List Underway
  /-- The answers with the places of their calls, in the order in which the calls finished. -/
  answers : List (Nat × Answer)
  /-- What was asked of the system, in the order in which it was asked, with the places of the
  calls. -/
  requests : List (Nat × Execution.Request)
  /-- The behaviours of the processes that are still to be asked for. -/
  rest : List Execution.Behaviour

/-- What can happen next to overlapping calls. -/
inductive Move
  /-- The call that has waited longest starts. -/
  | start
  /-- The process of the call at a place is over, and the call finishes. -/
  | finish (index : Nat)
  deriving DecidableEq, Repr

namespace Overlap

/-- Calls that are about to be made. -/
def opened (s : Session) (calls : List Call) (behaviours : List Execution.Behaviour) : Overlap :=
  ⟨s, 0, calls, [], [], [], behaviours⟩

/-- The start of a call. A call without a process is over at once. -/
def launch (w : World) (o : Overlap) (call : Call) : Overlap :=
  match (o.session.start w call).value with
  | (.done answer, s) =>
    { o with session := s, begun := o.begun + 1, answers := o.answers ++ [(o.begun, answer)] }
  | (.waiting job, s) =>
    { o with
      session := s
      begun := o.begun + 1
      underway := o.underway ++ [⟨o.begun, job, nextBehaviour o.rest⟩]
      requests := o.requests ++ [(o.begun, job.request)]
      rest := o.rest.tail }

/-- The call that has waited longest starts, if there is one. -/
def start (w : World) (o : Overlap) : Overlap :=
  match o.waiting with
  | [] => o
  | call :: calls => { o.launch w call with waiting := calls }

/-- The call at a place finishes, if it is under way. It meets the session as it is by now. -/
def finish (o : Overlap) (index : Nat) : Overlap :=
  { o with
    underway := o.underway.filter (·.index ≠ index)
    answers := o.answers ++
      (o.underway.filter (·.index = index)).map (Underway.answer o.session.settings) }

/-- What one move comes to. A move that is not possible changes nothing. -/
def move (w : World) (o : Overlap) : Move → Overlap
  | .start => o.start w
  | .finish index => o.finish index

/-- What several moves come to. -/
def run (w : World) (o : Overlap) (moves : List Move) : Overlap := moves.foldl (move w) o

/-- No call waits, and none is under way. -/
def isOver (o : Overlap) : Bool := o.waiting.isEmpty && o.underway.isEmpty

variable {w : World} {o : Overlap} {q : Sequence} {call : Call}

theorem run_append (moves more : List Move) :
    o.run w (moves ++ more) = (o.run w moves).run w more :=
  List.foldl_append

theorem isOver_iff : o.isOver = true ↔ o.waiting = [] ∧ o.underway = [] := by
  simp [isOver]

/-! ### Every interleaving comes to its end -/

theorem start_of_waiting {calls : List Call} (h : o.waiting = call :: calls) :
    o.start w = { o.launch w call with waiting := calls } := by
  rw [start, h]

theorem length_waiting_start : (o.start w).waiting.length = o.waiting.length - 1 := by
  cases h : o.waiting with
  | nil => simp [start, h]
  | cons call calls => simp [start_of_waiting h]

theorem waiting_starts (n : Nat) (o : Overlap) (h : o.waiting.length ≤ n) :
    (o.run w (List.replicate n .start)).waiting = [] := by
  induction n generalizing o with
  | zero => exact List.length_eq_zero_iff.mp (Nat.le_zero.mp h)
  | succ n ih =>
    refine ih (o.start w) ?_
    rw [length_waiting_start]
    omega

theorem finishes (indices : List Nat) (o : Overlap) :
    (o.run w (indices.map .finish)).waiting = o.waiting ∧
      (o.run w (indices.map .finish)).underway = o.underway.filter (·.index ∉ indices) := by
  induction indices generalizing o with
  | nil => exact ⟨rfl, (List.filter_eq_self.mpr fun _ _ => by simp).symm⟩
  | cons index indices ih =>
    obtain ⟨hwaiting, hunderway⟩ := ih (o.finish index)
    refine ⟨hwaiting, hunderway.trans ?_⟩
    rw [finish, List.filter_filter]
    refine List.filter_congr fun u _ => ?_
    simp [Bool.and_comm]

/-- **The calls can finish in any order.** When all have started, they are over as soon as each
place under way has had its turn, whatever the order of the places. -/
theorem isOver_starts_finishes (o : Overlap) (indices : List Nat)
    (h : ∀ u ∈ (o.run w (List.replicate o.waiting.length .start)).underway, u.index ∈ indices) :
    (o.run w (List.replicate o.waiting.length .start ++ indices.map .finish)).isOver = true := by
  obtain ⟨hwaiting, hunderway⟩ :=
    finishes (w := w) indices (o.run w (List.replicate o.waiting.length .start))
  rw [isOver_iff, run_append, hwaiting, hunderway]
  refine ⟨waiting_starts _ o (Nat.le_refl _), List.filter_eq_nil_iff.mpr fun u hu => ?_⟩
  simpa using h u hu

/-- Whatever has happened so far, all calls can still come to their end. -/
theorem exists_isOver (w : World) (o : Overlap) : ∃ more, (o.run w more).isOver = true :=
  ⟨_, o.isOver_starts_finishes
    ((o.run w (List.replicate o.waiting.length .start)).underway.map (·.index))
    fun _ hu => List.mem_map_of_mem hu⟩

/-! ### What each move preserves -/

/-- How overlapping calls are related to the calls that have begun, made one after another. The
answers that were given and the ones that are still to come are the answers of the latter. -/
structure Matches (o : Overlap) (q : Sequence) : Prop where
  session : o.session = q.session
  begun : o.begun = q.answers.length
  requests : o.requests = q.requests
  rest : o.rest = q.rest
  answers : (o.answers ++ o.underway.map (Underway.answer o.session.settings)).Perm q.answers

namespace Matches

theorem opened (s : Session) (calls : List Call) (behaviours : List Execution.Behaviour) :
    (Overlap.opened s calls behaviours).Matches (.first s behaviours) :=
  ⟨rfl, rfl, rfl, rfl, .refl _⟩

/-- A start is matched by a whole call. The session that it leaves to the processes under way has
the settings that they were started with. -/
theorem launch (h : o.Matches q) (w : World) (call : Call) :
    (o.launch w call).Matches (q.next w call) := by
  obtain ⟨hsession, hbegun, hrequests, hrest, hanswers⟩ := h
  rw [hsession] at hanswers
  rcases hstart : (q.session.start w call).value with ⟨answer | job, s⟩
  · have hs : s.settings = q.session.settings := settings_of_start hstart
    simp only [Sequence.next_of_done hstart, Overlap.launch, hsession, hstart, hbegun]
    refine ⟨rfl, by simp, hrequests, hrest, ?_⟩
    -- The answer is given at once, in front of those that are still to come.
    refine List.Perm.trans ?_ (hanswers.append_right _)
    rw [hs, List.append_assoc, List.append_assoc]
    exact List.perm_append_comm.append_left o.answers
  · have hs : s.settings = q.session.settings := settings_of_start hstart
    simp only [Sequence.next_of_waiting hstart, Overlap.launch, hsession, hstart, hbegun, hrest,
      hrequests]
    refine ⟨rfl, by simp, rfl, rfl, ?_⟩
    rw [hs, List.map_append, ← List.append_assoc]
    exact hanswers.append_right _

/-- A finish changes nothing but where an answer stands. -/
theorem finish (h : o.Matches q) (index : Nat) : (o.finish index).Matches q := by
  refine ⟨h.session, h.begun, h.requests, h.rest, .trans ?_ h.answers⟩
  have hsplit := List.filter_append_perm (fun u : Underway => decide (u.index = index)) o.underway
  rw [Overlap.finish, List.append_assoc, ← List.map_append]
  refine List.Perm.append_left o.answers (List.Perm.map _ ?_)
  simpa using hsplit

/-- After any moves the calls that have begun are matched. -/
theorem run {s : Session} {behaviours : List Execution.Behaviour} {calls begun : List Call}
    (h : o.Matches (s.inSequence w begun behaviours)) (hcalls : calls = begun ++ o.waiting)
    (moves : List Move) :
    ∃ begun', calls = begun' ++ (o.run w moves).waiting ∧
      (o.run w moves).Matches (s.inSequence w begun' behaviours) := by
  induction moves generalizing o begun with
  | nil => exact ⟨begun, hcalls, h⟩
  | cons m moves ih =>
    cases m with
    | start =>
      cases hwaiting : o.waiting with
      | nil =>
        have hsame : o.start w = o := by rw [start, hwaiting]
        have hmatches : (o.start w).Matches (s.inSequence w begun behaviours) := by rwa [hsame]
        have hsplit : calls = begun ++ (o.start w).waiting := by rw [hsame, hcalls]
        exact ih hmatches hsplit
      | cons call rest =>
        have hlaunch : (o.launch w call).Matches (s.inSequence w (begun ++ [call]) behaviours) := by
          rw [inSequence_snoc]
          exact h.launch w call
        have hmatches : (o.start w).Matches (s.inSequence w (begun ++ [call]) behaviours) := by
          rw [start_of_waiting hwaiting]
          exact ⟨hlaunch.session, hlaunch.begun, hlaunch.requests, hlaunch.rest, hlaunch.answers⟩
        have hsplit : calls = (begun ++ [call]) ++ (o.start w).waiting := by
          rw [start_of_waiting hwaiting, hcalls, hwaiting, List.append_assoc]
          rfl
        exact ih hmatches hsplit
    | finish index =>
      have hmatches : (o.finish index).Matches (s.inSequence w begun behaviours) := h.finish index
      exact ih hmatches hcalls

end Matches

end Overlap

/-- **Overlapping calls come to what sequential ones do.** Several calls are made at the same time
in an unchanging world. They start in their order, and the ones that have started finish in any
order and at any moment. However far they have come, they can come to their end. When they have, the
session is the one that the calls leave behind when they are made one after another, the same was
asked of the system in the same order, and each call has the same answer. -/
theorem interleaved_eq_inSequence (s : Session) (w : World) (calls : List Call)
    (behaviours : List Execution.Behaviour) (moves : List Move) :
    let o := (Overlap.opened s calls behaviours).run w moves
    let q := s.inSequence w calls behaviours
    (∃ more, (o.run w more).isOver = true) ∧
      (o.isOver = true →
        o.session = q.session ∧ o.requests = q.requests ∧ o.rest = q.rest ∧
          o.answers.Perm q.answers) := by
  intro o q
  refine ⟨o.exists_isOver w, fun hover => ?_⟩
  have hopened : (Overlap.opened s calls behaviours).Matches (s.inSequence w [] behaviours) :=
    .opened s calls behaviours
  have hnone : calls = [] ++ (Overlap.opened s calls behaviours).waiting := rfl
  obtain ⟨begun, hcalls, hmatches⟩ := hopened.run hnone moves
  obtain ⟨hwaiting, hunderway⟩ := Overlap.isOver_iff.mp hover
  obtain rfl : calls = begun := by rw [hcalls, hwaiting, List.append_nil]
  refine ⟨hmatches.session, hmatches.requests, hmatches.rest, ?_⟩
  have hanswers := hmatches.answers
  rwa [hunderway, List.map_nil, List.append_nil] at hanswers

/-- Two checks overlap: the process of the first one is over after that of the second one. -/
theorem interleaved_two_projects :
    let w : World := .ofFiles "/cwd" .empty [("/a", .directory), ("/b", .directory)]
    let s := Session.ofSettings w {}
    let calls : List Call := [.lint "/a" "x.js" none, .lint "/b" "y.js" none]
    let child : Execution.Child := ⟨.ends, [], [], some 0, false, 0⟩
    let behaviours : List Execution.Behaviour := [.starts child, .starts child]
    let o := (Overlap.opened s calls behaviours).run w [.start, .start, .finish 1, .finish 0]
    o.isOver = true ∧ o.answers.map Prod.fst = [1, 0] ∧
      o.session = (s.inSequence w calls behaviours).session ∧
      o.requests = (s.inSequence w calls behaviours).requests ∧
      o.answers.Perm (s.inSequence w calls behaviours).answers := by
  intro w s calls child behaviours o
  have hover : o.isOver = true := by decide +kernel
  obtain ⟨hsession, hrequests, -, hanswers⟩ :=
    (interleaved_eq_inSequence s w calls behaviours _).2 hover
  exact ⟨hover, by decide +kernel, hsession, hrequests, hanswers⟩

/-! ### Gathered calls -/

/-- The settings are the same after several calls. -/
theorem inSequence_settings (s : Session) (w : World) (calls : List Call)
    (behaviours : List Execution.Behaviour) :
    (s.inSequence w calls behaviours).session.settings = s.settings := by
  induction calls using List.reverseRecOn with
  | nil => rfl
  | append_singleton calls call ih =>
    rw [inSequence_snoc, Sequence.next_session, contextFor_settings, ih]

variable {s : Session} {w : World} {calls : List Call} {behaviours : List Execution.Behaviour}

/-- How launched calls are related to the same calls one after another. -/
structure Launched.Matches (l : Launched) (q : Sequence) : Prop where
  session : l.session = q.session
  requests : l.runs.map (·.request) = q.requests.map (·.2)
  rest : l.rest = q.rest
  answers : l.entries.map (fun e => (e.finish l.session.settings).value) = q.answers

/-- Only a process that starts has a child. -/
theorem Job.starts_of_child? {job : Job} {behaviour : Execution.Behaviour}
    {child : Execution.Child} (h : job.child? behaviour = some child) :
    behaviour = .starts child := by
  cases behaviour with
  | refused cause => cases h
  | starts child' =>
    rw [child?, Option.ite_none_left_eq_some] at h
    exact congrArg _ (Option.some.inj h.2)

/-- A launch is matched by a whole call, also if its process is not started. -/
theorem Launched.Matches.launch {l : Launched} {q : Sequence} (h : l.Matches q) (w : World)
    (call : Call) : (launch w l q.answers.length call).Matches (q.next w call) := by
  obtain ⟨hsession, hrequests, hrest, hanswers⟩ := h
  rw [hsession] at hanswers
  rcases hstart : (q.session.start w call).value with ⟨answer | job, s⟩
  · have hs : s.settings = q.session.settings := settings_of_start hstart
    simp only [Sequence.next_of_done hstart, Session.launch, hsession, hstart]
    refine ⟨rfl, hrequests, hrest, ?_⟩
    rw [List.map_append, hs, hanswers]
    rfl
  · have hs : s.settings = q.session.settings := settings_of_start hstart
    have hrun : (job.run (nextBehaviour q.rest)).request = job.request := rfl
    simp only [Sequence.next_of_waiting hstart, Session.launch, hsession, hstart, hrest]
    -- A process that is not started is over at once, with the answer that it would have at its end.
    cases hchild : job.child? (nextBehaviour q.rest) with
    | none =>
      refine ⟨rfl, by simp [hrequests, hrun], rfl, ?_⟩
      simp only
      rw [List.map_append, hs, hanswers]
      rfl
    | some child =>
      refine ⟨rfl, by simp [hrequests, hrun], rfl, ?_⟩
      simp only
      rw [List.map_append, hs, hanswers, Job.starts_of_child? hchild]
      rfl

theorem finishOrder_perm (entries : List Entry) : (finishOrder entries).Perm entries := by
  have hsplit := List.filter_append_perm (fun e : Entry => e.delay?.isNone) entries
  refine (List.Perm.append_left _ (List.mergeSort_perm _ _)).trans ?_
  simpa using hsplit

theorem startOrder_eq {calls : List Call} (h : ∀ call ∈ calls, call.isDeferred = false) :
    startOrder calls = calls.zipIdx.map fun ci => (ci.2, ci.1) := by
  have hnone : ∀ ic ∈ calls.zipIdx.map (fun ci => (ci.2, ci.1)), ic.2.isDeferred = false := by
    intro ic hic
    obtain ⟨ci, hci, rfl⟩ := List.mem_map.mp hic
    exact h ci.1 (List.fst_mem_of_mem_zipIdx hci)
  rw [startOrder, List.filter_eq_self.mpr, List.filter_eq_nil_iff.mpr, List.append_nil]
  · exact fun ic hic => by simp [hnone ic hic]
  · exact fun ic hic => by simp [hnone ic hic]

theorem startAll_matches (h : ∀ call ∈ calls, call.isDeferred = false) :
    (s.startAll w calls behaviours).Matches (s.inSequence w calls behaviours) := by
  rw [startAll, startOrder_eq h, List.foldl_map]
  clear h
  induction calls using List.reverseRecOn with
  | nil => exact ⟨rfl, rfl, rfl, rfl⟩
  | append_singleton calls call ih =>
    have hlaunch := ih.launch w call
    rw [length_answers] at hlaunch
    rw [inSequence_snoc, List.zipIdx_append, Nat.zero_add, List.foldl_append]
    exact hlaunch

/-- **Gathered calls come to what sequential ones do**, as far as none of them is put off. -/
theorem gather_eq_inSequence (h : ∀ call ∈ calls, call.isDeferred = false) :
    let g := s.gather w calls behaviours
    let q := s.inSequence w calls behaviours
    g.session = q.session ∧ g.runs.map (·.request) = q.requests.map (·.2) ∧
      g.finished.Perm q.answers := by
  intro g q
  have hmatches : (s.startAll w calls behaviours).Matches q := startAll_matches h
  obtain ⟨hsession, hrequests, -, hanswers⟩ := hmatches
  refine ⟨hsession, hrequests, ?_⟩
  rw [hsession, inSequence_settings] at hanswers
  simp only [g, gather, List.map_map]
  exact ((finishOrder_perm _).map _).trans (.of_eq hanswers)

end ProjectLint.Session
