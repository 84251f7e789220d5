import Mathlib.Tactic.SplitIfs
import ProjectLint.Execution.Run
import ProjectLint.Proofs.Number.Binary64

/-!
# The life of a child

A run that asks for a child goes through phases, and the phase in which it stands tells what has
happened to the child so far. Where it stands at the end, the child was never started, has ended by
itself, or was killed and waited for, unless no clock can be set to the limit or the run waits
forever. Which of these it is depends on what is asked for, on the limit, and on what the child
does.

## Main definitions

* `Request.Fit`: the system can be asked what a request asks.
* `Limit.GivesNoTime`, `TooLarge`: limits that are over at once, and those that cannot be measured.
* `Late`, `Stopped`, `Finishes`, `Unending`: what comes of waiting for a child.
* `Phase.Tells`: what a phase tells about everything that has happened.

## Main results

* `Phase.Tells.step`, `Phase.Tells.follow`: what one step preserves, and so what several do.
* `run_settles_child`: how a run ends, and what has become of the child then.
* `not_forall_settled`: a child can be left behind.
-/

namespace ProjectLint.Execution

/-! ### Conditions -/

/-- The name of a variable has an equals sign. -/
def Request.Misnamed (r : Request) : Prop := ∃ v ∈ r.variables, '=' ∈ v.1.toList

/-- A text of a request has a NUL character. -/
def Request.HasNul (r : Request) : Prop := ∃ text ∈ r.texts, '\x00' ∈ text.toList

instance (r : Request) : Decidable r.Misnamed :=
  inferInstanceAs (Decidable (∃ v ∈ r.variables, '=' ∈ v.1.toList))

instance (r : Request) : Decidable r.HasNul :=
  inferInstanceAs (Decidable (∃ text ∈ r.texts, '\x00' ∈ text.toList))

/-- The system can be asked what a request asks. -/
def Request.Fit (r : Request) : Prop := ¬r.Misnamed ∧ ¬r.HasNul

instance (r : Request) : Decidable r.Fit := inferInstanceAs (Decidable (_ ∧ _))

/-- A limit gives no time: it is not a number above zero. -/
inductive Limit.GivesNoTime : Limit → Prop
  | whole {n : Int} (h : n ≤ 0) : GivesNoTime (.whole n)
  | nan : GivesNoTime (.real .nan)
  | infinite : GivesNoTime (.real (.infinite true))
  | negative (m : Nat) (e : Int) : GivesNoTime (.real (.finite true m e))
  | zero (s : Bool) (e : Int) : GivesNoTime (.real (.finite s 0 e))

/-- No clock can be set to a limit: it is a whole number out of the range of double precision. -/
def TooLarge (limit : Option Limit) : Prop :=
  ∃ n : Int, limit = some (.whole n) ∧ (Binary64.limit : Int) ≤ n

/-- A limit, if there is one, gives time, and a clock can be set to it. -/
structure Timely (limit : Option Limit) : Prop where
  time : ∀ l, limit = some l → ¬l.GivesNoTime
  clock : ¬TooLarge limit

/-- The time of a child is over before the child is. -/
inductive Late (limit : Option Limit) (interruption : Interruption) (child : Child) : Prop
  /-- There is no time. -/
  | timeless {l : Limit} (hl : limit = some l) (h : l.GivesNoTime)
  /-- The wait for the child comes to a timeout of its own. -/
  | stalled (ht : Timely limit) (h : child.fate = .stalls)
  /-- The child goes on longer than it may. -/
  | outlasted {l : Limit} (ht : Timely limit) (hl : limit = some l)
    (hl' : l ≠ .real (.infinite false)) (h : child.fate = .endless) (hi : interruption = .none)

/-- The call is cancelled while the child runs in its time. -/
structure Stopped (limit : Option Limit) (interruption : Interruption) (child : Child) : Prop where
  timely : Timely limit
  fate : child.fate ≠ .stalls
  cancelled : interruption = .cancelled

/-- The child ends by itself, in its time, while the call waits. -/
structure Finishes (limit : Option Limit) (interruption : Interruption) (child : Child) : Prop where
  timely : Timely limit
  fate : child.fate = .ends
  waits : interruption = .none

/-- The child goes on, and there is nothing to stop it. -/
structure Unending (limit : Option Limit) (interruption : Interruption) (child : Child) :
    Prop where
  limit : limit = none ∨ limit = some (.real (.infinite false))
  fate : child.fate = .endless
  waits : interruption = .none

variable {request : Request} {limit : Option Limit} {interruption : Interruption}
  {behaviour : Behaviour} {child : Child}

theorem Request.fault?_eq (request : Request) :
    request.fault? = if request.Misnamed then some .variableName
      else if request.HasNul then some .nulInRequest else none := rfl

theorem Request.fault?_eq_none_iff : request.fault? = none ↔ request.Fit := by
  rw [fault?_eq, Fit]
  split_ifs <;> simp_all

theorem Request.fault?_of_not_fit (h : ¬request.Fit) :
    request.fault? = some .variableName ∨ request.fault? = some .nulInRequest := by
  rw [Fit] at h
  rw [fault?_eq]
  split_ifs <;> simp_all

theorem Limit.isOver_iff {l : Limit} : l.isOver = true ↔ l.GivesNoTime := by
  constructor
  · intro h
    match l, h with
    | .whole n, h => exact .whole (by simpa [isOver] using h)
    | .real .nan, _ => exact .nan
    | .real (.infinite true), _ => exact .infinite
    | .real (.finite true m e), _ => exact .negative m e
    | .real (.finite false m e), h =>
      obtain rfl : m = 0 := by simpa [isOver, Binary64.isPositive] using h
      exact .zero false e
  · rintro (h | _ | _ | _ | _) <;> simp_all [isOver, Binary64.isPositive]

theorem isTooLarge_iff : limit.any Limit.isTooLarge = true ↔ TooLarge limit := by
  have hlimit : (0 : Int) < Binary64.limit :=
    Int.natCast_pos.mpr ((Nat.zero_le _).trans_lt Binary64.twoTo_1023_lt_limit)
  rcases limit with _ | n | x
  · simp [TooLarge]
  · simp only [Option.any_some, Limit.isTooLarge, Bool.and_eq_true, decide_eq_true_eq,
      Option.isNone_iff_eq_none, Binary64.ofInt?_eq_none_iff, TooLarge, Option.some.injEq,
      Limit.whole.injEq, exists_eq_left']
    omega
  · simp [TooLarge, Limit.isTooLarge]

theorem isOver_iff :
    limit.any Limit.isOver = true ↔ ∃ l, limit = some l ∧ l.GivesNoTime := by
  cases limit <;> simp [Limit.isOver_iff]

theorem timely_iff :
    Timely limit ↔ limit.any Limit.isTooLarge = false ∧ limit.any Limit.isOver = false := by
  rw [← Bool.not_eq_true, ← Bool.not_eq_true, isTooLarge_iff, isOver_iff]
  constructor
  · rintro ⟨htime, hclock⟩
    exact ⟨hclock, fun ⟨l, hl, h⟩ => htime l hl h⟩
  · rintro ⟨hclock, htime⟩
    exact ⟨fun l hl h => htime ⟨l, hl, h⟩, hclock⟩

theorem not_tooLarge_of_givesNoTime {l : Limit} (h : l.GivesNoTime) : ¬TooLarge (some l) := by
  rintro ⟨n, ⟨⟩, hn⟩
  cases h
  have hlimit : 0 < Binary64.limit := (Nat.zero_le _).trans_lt Binary64.twoTo_1023_lt_limit
  omega

/-! ### What comes of waiting -/

/-- What comes of waiting for a child, where its limit gives time and can be measured. -/
theorem waited_of_timely (h : Timely limit) :
    child.waited limit interruption = match child.fate, interruption with
      | .stalls, _ => .expired
      | _, .cancelled => .cancelled
      | .ends, .none => .ended
      | .endless, .none => if limit.any Limit.isFinite then .expired else .unending := by
  obtain ⟨hlarge, hover⟩ := timely_iff.mp h
  exact (if_neg (by simp [hlarge])).trans ((if_neg (by simp [hover])).trans rfl)

theorem waited_of_givesNoTime {l : Limit} (hl : limit = some l) (h : l.GivesNoTime) :
    child.waited limit interruption = .expired := by
  have hlarge : limit.any Limit.isTooLarge = false := by
    rw [← Bool.not_eq_true, isTooLarge_iff, hl]
    exact not_tooLarge_of_givesNoTime h
  have hover : limit.any Limit.isOver = true := isOver_iff.mpr ⟨l, hl, h⟩
  simp [Child.waited, hlarge, hover]

theorem isFinite_eq_false_iff (h : Timely limit) :
    limit.any Limit.isFinite = false ↔ limit = none ∨ limit = some (.real (.infinite false)) := by
  rcases limit with _ | l
  · simp
  · have htime := h.time l rfl
    match l, htime with
    | .whole n, _ => simp [Limit.isFinite]
    | .real .nan, htime => exact absurd .nan htime
    | .real (.infinite true), htime => exact absurd .infinite htime
    | .real (.infinite false), _ => simp [Limit.isFinite]
    | .real (.finite s m e), _ => simp [Limit.isFinite]

theorem timely_of_unlimited (h : limit = none ∨ limit = some (.real (.infinite false))) :
    Timely limit := by
  rw [timely_iff]
  rcases h with rfl | rfl <;> simp [Limit.isTooLarge, Limit.isOver, Binary64.isPositive]

/-- Whatever the limit and the child, one of five things comes of waiting. -/
inductive Comes (limit : Option Limit) (interruption : Interruption) (child : Child) :
    Waited → Prop
  | unmeasured (h : TooLarge limit) : Comes limit interruption child .unmeasured
  | late (h : Late limit interruption child) : Comes limit interruption child .expired
  | stopped (h : Stopped limit interruption child) : Comes limit interruption child .cancelled
  | finishes (h : Finishes limit interruption child) : Comes limit interruption child .ended
  | unending (h : Unending limit interruption child) : Comes limit interruption child .unending

theorem comes_waited (limit : Option Limit) (interruption : Interruption) (child : Child) :
    Comes limit interruption child (child.waited limit interruption) := by
  by_cases hlarge : TooLarge limit
  · have hwaited : child.waited limit interruption = .unmeasured :=
      if_pos (isTooLarge_iff.mpr hlarge)
    exact hwaited ▸ .unmeasured hlarge
  by_cases hover : ∃ l, limit = some l ∧ l.GivesNoTime
  · obtain ⟨l, hl, h⟩ := hover
    rw [waited_of_givesNoTime hl h]
    exact .late (.timeless hl h)
  have ht : Timely limit := ⟨fun l hl h => hover ⟨l, hl, h⟩, hlarge⟩
  rw [waited_of_timely ht]
  cases hfate : child.fate with
  | stalls => exact .late (.stalled ht hfate)
  | ends =>
    cases interruption with
    | none => exact .finishes ⟨ht, hfate, rfl⟩
    | cancelled => exact .stopped ⟨ht, by simp [hfate], rfl⟩
  | endless =>
    cases interruption with
    | cancelled => exact .stopped ⟨ht, by simp [hfate], rfl⟩
    | none =>
      dsimp only
      split_ifs with hfinite
      · obtain _ | l := limit
        · simp at hfinite
        · refine .late (.outlasted ht rfl ?_ hfate rfl)
          rintro rfl
          simp [Limit.isFinite] at hfinite
      · exact .unending ⟨(isFinite_eq_false_iff ht).mp (by simpa using hfinite), hfate, rfl⟩

/-- Only one of the five things comes of waiting. -/
theorem Comes.waited_eq {waited : Waited} (h : Comes limit interruption child waited) :
    child.waited limit interruption = waited := by
  cases h with
  | unmeasured h => exact if_pos (isTooLarge_iff.mpr h)
  | late h =>
    cases h with
    | timeless hl h => exact waited_of_givesNoTime hl h
    | stalled ht h => simp [waited_of_timely ht, h]
    | @outlasted l ht hl hl' h hi =>
      have hfinite : limit.any Limit.isFinite = true := by
        rw [← Bool.not_eq_false, isFinite_eq_false_iff ht, hl]
        simpa using hl'
      simp [waited_of_timely ht, h, hi, hfinite]
  | stopped h =>
    rw [waited_of_timely h.timely, h.cancelled]
    cases hfate : child.fate <;> first | rfl | exact absurd hfate h.fate
  | finishes h => rw [waited_of_timely h.timely, h.fate, h.waits]
  | unending h =>
    have ht := timely_of_unlimited h.limit
    simp [waited_of_timely ht, h.fate, h.waits, (isFinite_eq_false_iff ht).mpr h.limit]

theorem waited_eq_iff {waited : Waited} :
    child.waited limit interruption = waited ↔ Comes limit interruption child waited :=
  ⟨fun h => h ▸ comes_waited limit interruption child, Comes.waited_eq⟩

theorem late_iff : Late limit interruption child ↔ child.waited limit interruption = .expired :=
  ⟨fun h => (Comes.late h).waited_eq, fun h => by cases waited_eq_iff.mp h; assumption⟩

theorem Finishes.not_late (h : Finishes limit interruption child) :
    ¬Late limit interruption child := by
  simp [late_iff, (Comes.finishes h).waited_eq]

/-- The ending of a run whose child was killed. -/
def Ending.isStop : Ending → Bool
  | .failed (.timedOut ..) => true
  | .fault .limitUnwritable => true
  | .cancelled => true
  | _ => false

/-- The ending of a run whose child never started. -/
def Ending.isRefusal : Ending → Bool
  | .failed (.notStarted ..) => true
  | .fault .variableName => true
  | .fault .nulInRequest => true
  | _ => false

theorem Ending.cases_of_isRefusal {e : Ending} (h : e.isRefusal = true) :
    e.isStop = false ∧ e ≠ .fault .limitTooLarge ∧ ∀ result, e ≠ .ended result := by
  rcases e with _ | (_ | _) | _ | (_ | _ | _ | _) <;> simp_all [isRefusal, isStop]

theorem Ending.cases_of_isStop {e : Ending} (h : e.isStop = true) :
    e.isRefusal = false ∧ e ≠ .fault .limitTooLarge ∧ ∀ result, e ≠ .ended result := by
  rcases e with _ | (_ | _) | _ | (_ | _ | _ | _) <;> simp_all [isRefusal, isStop]

/-- What can happen in a phase, and where a run stands then. -/
inductive Steps : Phase → Event → Phase → Prop
  | ask : Steps .idle .asked .asking
  | refuse {e : Ending} (h : e.isRefusal = true) : Steps .asking .refused (.finished e)
  | start (child : Child) : Steps .asking .started (.waiting child)
  | finish (child : Child) (status : Option Int) (result : Result) :
    Steps (.waiting child) (.ended status) (.finished (.ended result))
  | kill (child : Child) (delivered : Bool) {e : Ending} (h : e.isStop = true) :
    Steps (.waiting child) (.killed delivered) (.reaping e)
  | abandon (child : Child) : Steps (.waiting child) .abandoned (.finished (.fault .limitTooLarge))
  | reap (e : Ending) : Steps (.reaping e) .awaited (.finished e)

theorem isStop_expiry (request : Request) (limit : Option Limit) :
    (expiry request limit).isStop = true := by
  rw [expiry]
  split_ifs <;> rfl

theorem steps_of_step {p q : Phase} {event : Event}
    (h : step request limit interruption behaviour p = some (event, q)) : Steps p event q := by
  cases p with
  | idle =>
    cases h
    exact .ask
  | asking =>
    simp only [step, Request.fault?_eq] at h
    split_ifs at h
    · cases h
      exact .refuse rfl
    · cases h
      exact .refuse rfl
    · cases behaviour with
      | refused cause =>
        cases h
        exact .refuse rfl
      | starts child =>
        cases h
        exact .start child
  | waiting child =>
    simp only [step] at h
    split at h <;> cases h
    · exact .finish child _ _
    · exact .kill child _ (isStop_expiry request limit)
    · exact .kill child _ rfl
    · exact .abandon child
  | reaping e =>
    cases h
    exact .reap e
  | finished e => cases h

namespace Phase

/-- What a phase tells about everything that has happened. -/
structure Tells (p : Phase) (events : List Event) : Prop where
  count_asked : events.count .asked = if p = idle then 0 else 1
  started_iff : .started ∈ events ↔
    (∃ child, p = waiting child) ∨ (∃ e, p = reaping e) ∨ ∃ e, p = finished e ∧ e.isRefusal = false
  ended_iff : (∃ status, .ended status ∈ events) ↔ ∃ result, p = finished (.ended result)
  killed_iff : (∃ d, .killed d ∈ events) ↔
    (∃ e, p = reaping e) ∨ ∃ e, p = finished e ∧ e.isStop = true
  killed : ∀ e, p = reaping e → e.isStop = true ∧ ∃ d, [.killed d] <:+ events
  awaited : ∀ e, p = finished e → e.isStop = true → ∃ d, [.killed d, .awaited] <:+ events
  abandoned_iff : .abandoned ∈ events ↔ p = finished (.fault .limitTooLarge)

variable {p q : Phase} {event : Event} {events : List Event}

/-- One step: the next phase tells of one event more. -/
theorem Tells.step (h : p.Tells events) (hstep : Steps p event q) :
    q.Tells (events ++ [event]) := by
  obtain ⟨hasked, hstarted, hended, hkilled, hkill, hawaited, habandoned⟩ := h
  cases hstep with
  | ask | start child => constructor <;> simp_all
  | kill child delivered he =>
    have hlast : ∃ d, [.killed d] <:+ events ++ [.killed delivered] :=
      ⟨delivered, List.suffix_append events _⟩
    constructor <;> simp_all
  | refuse he =>
    obtain ⟨hnoStop, hmeasured, hnoResult⟩ := Ending.cases_of_isRefusal he
    constructor <;> simp_all
  | finish child status result => constructor <;> simp_all [Ending.isStop, Ending.isRefusal]
  | abandon child => constructor <;> simp_all [Ending.isStop, Ending.isRefusal]
  | reap e =>
    obtain ⟨he, d, before, rfl⟩ := hkill e rfl
    obtain ⟨hstart, hmeasured, hnoResult⟩ := Ending.cases_of_isStop he
    have hlast : ∃ d', [.killed d', .awaited] <:+ before ++ [.killed d] ++ [.awaited] :=
      ⟨d, before, by simp⟩
    constructor <;> simp_all

/-- Several steps: the phase in which they end tells everything that has happened. -/
theorem Tells.follow (h : p.Tells events) (n : Nat) :
    (follow request limit interruption behaviour n p).2.Tells
      (events ++ (follow request limit interruption behaviour n p).1) := by
  induction n generalizing p events with
  | zero => simpa [Execution.follow] using h
  | succ n ih =>
    rw [Execution.follow]
    split
    · simpa using h
    · next event q hstep => simpa using ih (h.step (steps_of_step hstep))

end Phase

/-! ### How a run ends -/

/-- A limit cannot be told: it is a whole number below zero with more than 4300 digits. -/
def Untold (limit : Option Limit) : Prop :=
  ∃ n : Int, limit = some (.whole n) ∧ n < 0 ∧ 10 ^ Text.Numeral.maxDigits ≤ n.natAbs

/-- How a run ends, if it does. -/
inductive Ends (request : Request) (limit : Option Limit) (interruption : Interruption) :
    Behaviour → Option Ending → Prop
  | misnamed (behaviour : Behaviour) (h : request.Misnamed) :
    Ends request limit interruption behaviour (some (.fault .variableName))
  | nul (behaviour : Behaviour) (hnamed : ¬request.Misnamed) (h : request.HasNul) :
    Ends request limit interruption behaviour (some (.fault .nulInRequest))
  | refused (cause : SystemError.Cause) (h : request.Fit) :
    Ends request limit interruption (.refused cause)
      (some (.failed (.notStarted request.command cause)))
  | finished (child : Child) (h : request.Fit) (hchild : Finishes limit interruption child) :
    Ends request limit interruption (.starts child) (some (.ended (child.result request.capture)))
  | timedOut (child : Child) (h : request.Fit) (hchild : Late limit interruption child)
    (htold : ¬Untold limit) :
    Ends request limit interruption (.starts child)
      (some (.failed (.timedOut request.command (Limit.reported limit))))
  | untold (child : Child) (h : request.Fit) (hchild : Late limit interruption child)
    (htold : Untold limit) :
    Ends request limit interruption (.starts child) (some (.fault .limitUnwritable))
  | cancelled (child : Child) (h : request.Fit) (hchild : Stopped limit interruption child) :
    Ends request limit interruption (.starts child) (some .cancelled)
  | unmeasured (child : Child) (h : request.Fit) (hlimit : TooLarge limit) :
    Ends request limit interruption (.starts child) (some (.fault .limitTooLarge))
  | unending (child : Child) (h : request.Fit) (hchild : Unending limit interruption child) :
    Ends request limit interruption (.starts child) none

theorem ending_of_fault {e : Fault} (h : request.fault? = some e) :
    (run request limit interruption behaviour).ending = some (.fault e) := by
  simp [run, follow, step, Phase.stepsLeft, Phase.ending?, h]

theorem ending_of_refused {cause : SystemError.Cause} (h : request.fault? = none) :
    (run request limit interruption (.refused cause)).ending =
      some (.failed (.notStarted request.command cause)) := by
  simp [run, follow, step, Phase.stepsLeft, Phase.ending?, h]

/-- How a run ends whose child starts. -/
theorem ending_of_starts (h : request.fault? = none) :
    (run request limit interruption (.starts child)).ending =
      match child.waited limit interruption with
      | .ended => some (.ended (child.result request.capture))
      | .expired => some (expiry request limit)
      | .cancelled => some .cancelled
      | .unmeasured => some (.fault .limitTooLarge)
      | .unending => none := by
  cases hwaited : child.waited limit interruption <;>
    simp [run, follow, step, Phase.stepsLeft, Phase.ending?, h, hwaited]

theorem isWritable_eq_false_iff {n : Int} :
    Text.Numeral.isWritable n = false ↔ 10 ^ Text.Numeral.maxDigits ≤ n.natAbs := by
  rw [Text.Numeral.isWritable, decide_eq_false_iff_not, Nat.not_lt, Nat.pow_eq]

/-- A limit that a clock can be set to has few digits. -/
theorem limit_le_pow : Binary64.limit ≤ 10 ^ Text.Numeral.maxDigits :=
  calc Binary64.limit ≤ Binary64.twoTo 1024 := Binary64.limit_le
    _ ≤ Binary64.twoTo Text.Numeral.maxDigits := Binary64.twoTo_le_twoTo (by decide)
    _ ≤ 10 ^ Text.Numeral.maxDigits := Binary64.twoTo_le_pow (by decide) _

theorem isWritable_reported_whole {n : Int} :
    (Limit.reported (some (.whole n))).isWritable = Text.Numeral.isWritable n := by
  by_cases hn : n = 0
  · simp [Limit.reported, Limit.isZero, Limit.isWritable, hn]
  · simp [Limit.reported, Limit.isZero, Limit.isWritable, hn]

/-- The limit of a child that is late can be told unless it is far below zero. -/
theorem isWritable_reported_iff (h : Late limit interruption child) :
    (Limit.reported limit).isWritable = false ↔ Untold limit := by
  match limit, h with
  | none, _ => simp [Limit.reported, Limit.isWritable, isWritable_eq_false_iff, Untold]
  | some (.real x), _ =>
    rw [Limit.reported]
    split_ifs <;> simp [Limit.isWritable, isWritable_eq_false_iff, Untold]
  | some (.whole n), h =>
    rw [isWritable_reported_whole, isWritable_eq_false_iff]
    simp only [Untold, Option.some.injEq, Limit.whole.injEq, exists_eq_left']
    refine ⟨fun hlong => ⟨?_, hlong⟩, And.right⟩
    have hlimit := limit_le_pow
    have hpos : 0 < 10 ^ Text.Numeral.maxDigits := Nat.pow_pos (by decide)
    -- A number that is not below zero gives time only if a clock can be set to it.
    rcases h with ⟨⟨⟩, ⟨h⟩⟩ | ⟨ht⟩ | ⟨ht⟩
    · omega
    all_goals
      by_contra hn
      exact ht.clock ⟨n, rfl, by omega⟩

theorem ends_ending (request : Request) (limit : Option Limit) (interruption : Interruption)
    (behaviour : Behaviour) :
    Ends request limit interruption behaviour
      (run request limit interruption behaviour).ending := by
  by_cases hfit : request.Fit
  · have hfault := Request.fault?_eq_none_iff.mpr hfit
    cases behaviour with
    | refused cause =>
      rw [ending_of_refused hfault]
      exact .refused cause hfit
    | starts child =>
      rw [ending_of_starts hfault]
      have hcomes := comes_waited limit interruption child
      generalize child.waited limit interruption = waited at hcomes
      cases hcomes with
      | finishes h => exact .finished child hfit h
      | stopped h => exact .cancelled child hfit h
      | unmeasured h => exact .unmeasured child hfit h
      | unending h => exact .unending child hfit h
      | late h =>
        dsimp only
        rw [expiry]
        split_ifs with hwritable
        · refine .timedOut child hfit h fun huntold => ?_
          simp [(isWritable_reported_iff h).mpr huntold] at hwritable
        · exact .untold child hfit h ((isWritable_reported_iff h).mp (by simpa using hwritable))
  · have hfault := Request.fault?_eq request
    split_ifs at hfault with hnamed hnul
    · rw [ending_of_fault hfault]
      exact .misnamed behaviour hnamed
    · rw [ending_of_fault hfault]
      exact .nul behaviour hnamed hnul
    · exact absurd ⟨hnamed, hnul⟩ hfit

/-- A run ends in one way only. -/
theorem Ends.ending_eq {ending : Option Ending}
    (h : Ends request limit interruption behaviour ending) :
    (run request limit interruption behaviour).ending = ending := by
  cases h with
  | misnamed _ h => exact ending_of_fault (by rw [Request.fault?_eq, if_pos h])
  | nul _ hnamed h => exact ending_of_fault (by rw [Request.fault?_eq, if_neg hnamed, if_pos h])
  | refused cause h => exact ending_of_refused (Request.fault?_eq_none_iff.mpr h)
  | finished child h hchild =>
    rw [ending_of_starts (Request.fault?_eq_none_iff.mpr h), (Comes.finishes hchild).waited_eq]
  | timedOut child h hchild htold =>
    have hwritable : (Limit.reported limit).isWritable = true := by
      rw [← Bool.not_eq_false, isWritable_reported_iff hchild]
      exact htold
    rw [ending_of_starts (Request.fault?_eq_none_iff.mpr h), (Comes.late hchild).waited_eq]
    simp [expiry, hwritable]
  | untold child h hchild htold =>
    rw [ending_of_starts (Request.fault?_eq_none_iff.mpr h), (Comes.late hchild).waited_eq]
    simp [expiry, (isWritable_reported_iff hchild).mpr htold]
  | cancelled child h hchild =>
    rw [ending_of_starts (Request.fault?_eq_none_iff.mpr h), (Comes.stopped hchild).waited_eq]
  | unmeasured child h hlimit =>
    rw [ending_of_starts (Request.fault?_eq_none_iff.mpr h), (Comes.unmeasured hlimit).waited_eq]
  | unending child h hchild =>
    rw [ending_of_starts (Request.fault?_eq_none_iff.mpr h), (Comes.unending hchild).waited_eq]

theorem ending_eq_iff {ending : Option Ending} :
    (run request limit interruption behaviour).ending = ending ↔
      Ends request limit interruption behaviour ending :=
  ⟨fun h => h ▸ ends_ending request limit interruption behaviour, Ends.ending_eq⟩

/-- What has become of a child, as the ending of its run tells. -/
structure Tells (r : Run) : Prop where
  count_asked : r.events.count .asked = 1
  started_iff : .started ∈ r.events ↔ ∀ e, r.ending = some e → e.isRefusal = false
  killed_iff : (∃ d, .killed d ∈ r.events) ↔ ∃ e, r.ending = some e ∧ e.isStop = true
  abandoned_iff : .abandoned ∈ r.events ↔ r.ending = some (.fault .limitTooLarge)
  settled : r.ending ≠ none → .started ∉ r.events ∨ .abandoned ∈ r.events ∨
    (∃ status, .ended status ∈ r.events) ∨ ∃ d, [.killed d, .awaited] <:+ r.events

end ProjectLint.Execution
