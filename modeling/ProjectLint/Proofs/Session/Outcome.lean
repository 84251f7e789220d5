import ProjectLint.Proofs.Execution.Output
import ProjectLint.Proofs.Session.ContextFor
import ProjectLint.Proofs.Session.Sequence

/-!
# What an outcome tells

A check of a file has one of three statuses, and each of them says something about what was done to
the system: nothing was asked of it, or a process was asked for and did not come to its own end, or
a process did. A correction of the file goes through the same stages. It asks for the same process
but for the arguments in front of the file, and does not read what the process prints.

## Main definitions

* `Execution.Goes`: the ways in which a run goes that comes to a result or to a failure.
* `Session.Refused`: the binder is asked for a project and refuses its root.
* `Session.Truthful`: an outcome tells what happened.
* `Session.Agrees`: a correction does what a check does.
* `Session.Clear`: arguments that can be handed to the system.

## Main results

* `truthful_and_agrees`: every outcome of a check is truthful, and a correction agrees with it.
* `not_forall_agrees`: where it does not.
-/

namespace ProjectLint

namespace Execution

variable {request : Request} {limit : Option Limit} {behaviour : Behaviour}

/-- The ways in which a run goes that comes to a result or to a failure: the child is refused, or is
stopped when its time is over, or ends by itself. -/
inductive Goes (request : Request) (limit : Option Limit) : Behaviour → Run → Prop
  | refused (cause : SystemError.Cause) :
    Goes request limit (.refused cause)
      ⟨request, [.asked, .refused], some (.failed (.notStarted request.command cause)), []⟩
  | stopped (child : Child) (late : Late limit .none child) :
    Goes request limit (.starts child)
      ⟨request, [.asked, .started, .killed !child.vanishes, .awaited],
        some (.failed (.timedOut request.command (Limit.reported limit))), []⟩
  | ended (child : Child) (early : Finishes limit .none child) :
    Goes request limit (.starts child)
      ⟨request, [.asked, .started, .ended child.status],
        some (.ended (child.result request.capture)),
        Event.records request (.ended child.status)⟩

theorem goes_of_fit (hfit : request.Fit) (htold : ¬Untold limit)
    (h : (∃ cause, behaviour = .refused cause) ∨
      ∃ child, behaviour = .starts child ∧ (Late limit .none child ∨ Finishes limit .none child)) :
    Goes request limit behaviour (run request limit .none behaviour) := by
  have hfault := Request.fault?_eq_none_iff.mpr hfit
  rcases h with ⟨cause, rfl⟩ | ⟨child, rfl, hlate | hearly⟩
  · have hrun : run request limit .none (.refused cause) =
        ⟨request, [.asked, .refused], some (.failed (.notStarted request.command cause)), []⟩ := by
      simp [run, follow, step, Phase.stepsLeft, Phase.ending?, Event.records, hfault]
    exact hrun ▸ .refused cause
  · have hexpiry : expiry request limit =
        .failed (.timedOut request.command (Limit.reported limit)) := by
      rw [expiry, if_pos]
      rw [← Bool.not_eq_false, isWritable_reported_iff hlate]
      exact htold
    have hrun : run request limit .none (.starts child) =
        ⟨request, [.asked, .started, .killed !child.vanishes, .awaited],
          some (.failed (.timedOut request.command (Limit.reported limit))), []⟩ := by
      simp [run, follow, step, Phase.stepsLeft, Phase.ending?, Event.records, hfault,
        late_iff.mp hlate, hexpiry]
    exact hrun ▸ .stopped child hlate
  · have hrun : run request limit .none (.starts child) =
        ⟨request, [.asked, .started, .ended child.status],
          some (.ended (child.result request.capture)),
          Event.records request (.ended child.status)⟩ := by
      simp [run, follow, step, Phase.stepsLeft, Phase.ending?, hfault,
        (Comes.finishes hearly).waited_eq, Event.records]
    exact hrun ▸ .ended child hearly

end Execution

namespace Session

open Execution (Behaviour Event Finishes Goes Late Run)

/-- The binder is asked for a project and refuses its root. -/
def Refused (s : Session) (w : World) (root : String) : Prop :=
  s.stored? root = none ∧ ∃ r reason,
    (s.binder.bind w (some (requested root)) s.boundRoot).value.1 = .error (.unusable r reason)

/-- An outcome tells what happened. The status says whether the root was refused, and otherwise
whether the child came to its own end. Nothing is run for a root that is refused. Otherwise one
child is asked for; if it starts and does not end in time it is killed and waited for, and the
failure names its whole command. If it ends by itself, whatever its exit status, the report is that
of its output. -/
structure Truthful (s : Session) (w : World) (root : String) (behaviour : Behaviour)
    (run : Option Run) (o : LintOutcome) : Prop where
  contextUnresolved_iff : o.status = .contextUnresolved ↔ s.Refused w root
  toolFailed_iff : o.status = .toolFailed ↔
    (∃ c, (s.contextFor w root).value.1 = .ok c) ∧
      ((∃ cause, behaviour = .refused cause) ∨
        ∃ child, behaviour = .starts child ∧ Late (limit s.settings) .none child)
  ok_iff : o.status = .ok ↔
    (∃ c, (s.contextFor w root).value.1 = .ok c) ∧
      ∃ child, behaviour = .starts child ∧ Finishes (limit s.settings) .none child
  of_contextUnresolved : o.status = .contextUnresolved → run = none
  of_toolFailed : o.status = .toolFailed → ∃ r e, run = some r ∧ r.events.count .asked = 1 ∧
    (∀ status, Event.ended status ∉ r.events) ∧
    (Event.started ∈ r.events → ∃ d, [Event.killed d, .awaited] <:+ r.events) ∧
    o.failure = some (.tool e) ∧ e.command = r.request.command
  of_ok : o.status = .ok → ∃ r child, run = some r ∧ behaviour = .starts child ∧
    r.events = [.asked, .started, .ended child.status] ∧
    Report.ofOutput (Execution.decode child.output) = .ok o.report
  failure_eq_none_iff : o.failure = none ↔ o.status = .ok
  report_eq_empty : o.status ≠ .ok → o.report = .empty

/-- A correction does what a check does: it comes to the same status and leaves the same session,
and its process, if there is one, is asked for in the same context with the same runtime. The
commands differ only in the arguments between the linter and the file, and the output of the
correction is not read. What happens to the processes is the same. -/
structure Agrees (s : Session) (w : World) (root file : String) (runtime : Option String)
    (status : Status) (lint fix : Performed) : Prop where
  answer : ∃ o, fix.answer = .fix (.ok o) ∧ o.status = status
  session : fix.session = lint.session
  rest : fix.rest = lint.rest
  run_eq_none : lint.run = none → fix.run = none
  run : ∀ r ∈ lint.run, ∃ r' ∈ fix.run, r'.events = r.events ∧
    ∃ c, (s.contextFor w root).value.1 = .ok c ∧
      let base := Command.base c (runtime.getD s.settings.runtime)
      r.request = request w c (base ++ s.settings.linter.lintArguments ++ [file]) true ∧
      r'.request = request w c (base ++ s.settings.linter.fixArguments ++ [file]) false

/-- The status of the outcome that an answer is, if it is one. -/
def Answer.status? : Answer → Option Status
  | .lint (.ok o) => some o.status
  | .fix (.ok o) => some o.status
  | _ => none

/-- Every text of a list can be handed to the system. -/
def Clear (texts : List String) : Prop := ∀ text ∈ texts, '\x00' ∉ text.toList

instance (texts : List String) : Decidable (Clear texts) :=
  inferInstanceAs (Decidable (∀ text ∈ texts, '\x00' ∉ text.toList))

variable {s s' : Session} {w : World} {root file : String} {runtime : Option String}
  {behaviours : List Behaviour} {behaviour : Behaviour} {c : ProjectContext} {o : LintOutcome}
  {r r' : Run}

theorem refused_iff :
    s.Refused w root ↔ ∃ r reason, (s.contextFor w root).value.1 = .error (.unusable r reason) := by
  rw [Refused]
  cases hstored : s.stored? root with
  | some c => simp [contextFor_of_stored hstored]
  | none => rw [contextFor_eq_bind hstored, bind_value_fst]; simp

/-! ### The stages of a call -/

/-- The run of a check in a context. -/
def lintRun (s : Session) (w : World) (c : ProjectContext) (file : String)
    (runtime : Option String) (behaviour : Behaviour) : Run :=
  Execution.run (request w c (Command.lint s.settings.linter c file
    (runtime.getD s.settings.runtime)) true) (limit s.settings) .none behaviour

/-- The run of a correction in a context. -/
def fixRun (s : Session) (w : World) (c : ProjectContext) (file : String)
    (runtime : Option String) (behaviour : Behaviour) : Run :=
  Execution.run (request w c (Command.fix s.settings.linter c file
    (runtime.getD s.settings.runtime)) false) (limit s.settings) .none behaviour

theorem perform_lint_of_ok (file : String) (runtime : Option String) (behaviours : List Behaviour)
    (h : (s.contextFor w root).value = (.ok c, s')) :
    let lint := s.perform w (.lint root file runtime) behaviours
    let r := s.lintRun w c file runtime (nextBehaviour behaviours)
    lint.answer = .lint (conclude (lintOutcome s.settings.linter file) r.ending).value ∧
      lint.run = some r ∧ lint.rest = behaviours.tail := by
  simp only [perform, start, Logged.value_bind, Call.root, h]
  exact ⟨rfl, rfl, rfl⟩

theorem perform_fix_of_ok (file : String) (runtime : Option String) (behaviours : List Behaviour)
    (h : (s.contextFor w root).value = (.ok c, s')) :
    let fix := s.perform w (.fix root file runtime) behaviours
    let r := s.fixRun w c file runtime (nextBehaviour behaviours)
    fix.answer = .fix (conclude (fixOutcome s.settings.linter) r.ending).value ∧
      fix.run = some r ∧ fix.rest = behaviours.tail := by
  simp only [perform, start, Logged.value_bind, Call.root, h]
  exact ⟨rfl, rfl, rfl⟩

/-- A check and a correction whose root is refused have an outcome. -/
theorem perform_of_refused {r reason : String} (file : String) (runtime : Option String)
    (behaviours : List Behaviour)
    (h : (s.contextFor w root).value = (.error (.unusable r reason), s')) :
    (s.perform w (.lint root file runtime) behaviours).answer = .lint (.ok
        { status := .contextUnresolved, failure := some (.context r reason) }) ∧
      (s.perform w (.fix root file runtime) behaviours).answer = .fix (.ok
        { status := .contextUnresolved, failure := some (.context r reason) }) := by
  simp only [perform, start, Logged.value_bind, Call.root, h]
  exact ⟨rfl, rfl⟩

/-- A search for a context that ends in a fault of its own leaves no outcome. -/
theorem perform_lint_of_file {e : FileFault}
    (h : (s.contextFor w root).value = (.error (.file e), s')) :
    (s.perform w (.lint root file runtime) behaviours).answer = .lint (.error (.file e)) := by
  simp only [perform, start, Logged.value_bind, Call.root, h]
  rfl

/-! ### Outcomes of runs -/

theorem lintOutcome_eq_ok_iff {linter : Linter} {result : Execution.Result} :
    (lintOutcome linter file (.ok result)).value = .ok o ↔
      ∃ report, Report.ofOutput result.output = .ok report ∧
        o = { status := .ok, report := report } := by
  cases h : Report.ofOutput result.output with
  | error e => simp [lintOutcome, h]
  | ok report => simp [lintOutcome, h, eq_comm]

theorem truthful_of_refused {r reason : String}
    (h : (s.contextFor w root).value.1 = .error (.unusable r reason)) :
    Truthful s w root behaviour none
      { status := .contextUnresolved, failure := some (.context r reason) } where
  contextUnresolved_iff := by simp [refused_iff, h]
  toolFailed_iff := by simp [h]
  ok_iff := by simp [h]
  of_contextUnresolved := fun _ => rfl
  of_toolFailed := by simp
  of_ok := by simp
  failure_eq_none_iff := by simp
  report_eq_empty := fun _ => rfl

/-- A limit of the settings is a floating-point number, which can always be told. -/
theorem not_untold_limit (settings : Settings) : ¬Execution.Untold (limit settings) := by
  rintro ⟨n, h, -⟩
  cases htimeout : settings.linter.timeout <;> simp [limit, htimeout] at h

theorem not_tooLarge_limit (settings : Settings) : ¬Execution.TooLarge (limit settings) := by
  rintro ⟨n, h, -⟩
  cases htimeout : settings.linter.timeout <;> simp [limit, htimeout] at h

/-- A run from which a call goes on was asked for in a fit way, and goes in one of three ways. -/
theorem goes_of_seen {q : Execution.Request} {l : Option Execution.Limit}
    {result : Except Execution.Failure Execution.Result} (htold : ¬Execution.Untold l)
    (h : seen (Execution.run q l .none behaviour).ending = .ok result) :
    q.Fit ∧ ∀ q' : Execution.Request, q'.Fit →
      Goes q' l behaviour (Execution.run q' l .none behaviour) := by
  have hends := Execution.ends_ending q l .none behaviour
  generalize (Execution.run q l .none behaviour).ending = ending at h hends
  cases hends with
  | refused cause hfit =>
    exact ⟨hfit, fun q' hfit' => Execution.goes_of_fit hfit' htold (.inl ⟨cause, rfl⟩)⟩
  | finished child hfit hchild =>
    exact ⟨hfit, fun q' hfit' => Execution.goes_of_fit hfit' htold (.inr ⟨child, rfl, .inr hchild⟩)⟩
  | timedOut child hfit hchild =>
    exact ⟨hfit, fun q' hfit' => Execution.goes_of_fit hfit' htold (.inr ⟨child, rfl, .inl hchild⟩)⟩
  | _ => simp [seen] at h

/-- A run whose output is read tells the truth, in each of the ways in which it can go. -/
theorem truthful_of_goes {linter : Linter} {q : Execution.Request}
    (h : (s.contextFor w root).value.1 = .ok c) (hgoes : Goes q (limit s.settings) behaviour r)
    (hcapture : q.capture = true)
    (ho : (conclude (lintOutcome linter file) r.ending).value = .ok o) :
    Truthful s w root behaviour (some r) o := by
  have hrefused : ¬s.Refused w root := by simp [refused_iff, h]
  cases hgoes with
  | refused cause =>
    obtain rfl : _ = o := by simpa [conclude, seen, lintOutcome] using ho
    refine ⟨by simp [hrefused], by simp [h], by simp, by simp, fun _ => ?_, by simp, by simp,
      fun _ => rfl⟩
    exact ⟨_, _, rfl, by simp, by simp, by simp, rfl, rfl⟩
  | stopped child late =>
    obtain rfl : _ = o := by simpa [conclude, seen, lintOutcome] using ho
    have hearly : ¬Finishes (limit s.settings) .none child := fun early => early.not_late late
    refine ⟨by simp [hrefused], by simp [h, late], by simp [hearly], by simp, fun _ => ?_, by simp,
      by simp, fun _ => rfl⟩
    exact ⟨_, _, rfl, by simp, by simp, fun _ => ⟨_, [.asked, .started], rfl⟩, rfl, rfl⟩
  | ended child early =>
    obtain ⟨report, hreport, rfl⟩ := lintOutcome_eq_ok_iff.mp ho
    have hlate := early.not_late
    refine ⟨by simp [hrefused], by simp [hlate], by simp [h, early], by simp, by simp, fun _ => ?_,
      by simp, by simp⟩
    exact ⟨_, child, rfl, rfl, rfl, by simpa [Execution.Child.result, hcapture] using hreport⟩

/-- With the same limit and the same behaviour, two runs go the same way. -/
theorem agrees_of_goes {linter : Linter} {l : Option Execution.Limit} {q q' : Execution.Request}
    (h : Goes q l behaviour r) (h' : Goes q' l behaviour r')
    (ho : (conclude (lintOutcome linter file) r.ending).value = .ok o) :
    r'.events = r.events ∧
      ∃ o', (conclude (fixOutcome linter) r'.ending).value = .ok o' ∧ o'.status = o.status := by
  cases h with
  | refused cause =>
    cases h'
    obtain rfl : _ = o := by simpa [conclude, seen, lintOutcome] using ho
    exact ⟨rfl, _, rfl, rfl⟩
  | stopped child late =>
    obtain rfl : _ = o := by simpa [conclude, seen, lintOutcome] using ho
    cases h' with
    | stopped _ _ => exact ⟨rfl, _, rfl, rfl⟩
    | ended _ early => exact absurd late early.not_late
  | ended child early =>
    obtain ⟨report, -, rfl⟩ := lintOutcome_eq_ok_iff.mp ho
    cases h' with
    | stopped _ late => exact absurd late early.not_late
    | ended _ _ => exact ⟨rfl, _, rfl, rfl⟩

/-- The request of a correction is fit if that of the check is and the other arguments are clear. -/
theorem fit_of_clear {arguments arguments' base : List String} {b : Bool} (capture : Bool)
    (hfit : (request w c (base ++ arguments ++ [file]) b).Fit) (hclear : Clear arguments') :
    (request w c (base ++ arguments' ++ [file]) capture).Fit := by
  refine ⟨hfit.1, ?_⟩
  rintro ⟨text, htext, hnul⟩
  have hnone : ∀ text ∈ (request w c (base ++ arguments ++ [file]) b).texts, '\x00' ∉ text.toList :=
    fun text htext hnul => hfit.2 ⟨text, htext, hnul⟩
  simp only [request, Execution.Request.texts, Execution.Request.variables, List.mem_append]
    at htext hnone
  by_cases h : text ∈ arguments'
  · exact hclear text h hnul
  · exact hnone text (by tauto) hnul

/-! ### Outcomes of calls -/

/-- **Every outcome of a check tells what happened, and a correction agrees with it.** In any
session and world, and whatever the process does, let a check have an outcome. Its root was refused,
its process could not be started or did not end in time, or its process ended by itself, as the
status says; the failure and the report are as they should be. In the same session and world a
correction comes to the same status and the same session, and asks in the same way for a process
whose command differs only in the arguments between the linter and the file, and whose output is not
read, as long as a process can be asked for with these arguments. -/
theorem truthful_and_agrees (s : Session) (w : World) (root file : String)
    (runtime : Option String) (behaviours : List Behaviour) (o : LintOutcome)
    (hanswer : (s.perform w (.lint root file runtime) behaviours).answer = .lint (.ok o)) :
    let lint := s.perform w (.lint root file runtime) behaviours
    let fix := s.perform w (.fix root file runtime) behaviours
    Truthful s w root (nextBehaviour behaviours) lint.run o ∧
      (o.status = .contextUnresolved ∨ Clear s.settings.linter.fixArguments →
        Agrees s w root file runtime o.status lint fix) := by
  intro lint fix
  have hsession : fix.session = lint.session :=
    (perform_session s w (.fix root file runtime) behaviours).trans
      (perform_session s w (.lint root file runtime) behaviours).symm
  rcases h : (s.contextFor w root).value with ⟨e | c, s'⟩
  · have hfound : (s.contextFor w root).value.1 = .error e := by rw [h]
    obtain ⟨hlint, hlintRest⟩ := perform_of_error (.lint root file runtime) behaviours hfound
    obtain ⟨hfix, hfixRest⟩ := perform_of_error (.fix root file runtime) behaviours hfound
    cases e with
    | unusable r reason =>
      obtain ⟨hlintAnswer, hfixAnswer⟩ := perform_of_refused file runtime behaviours h
      obtain rfl : _ = o := by simpa [hlintAnswer] using hanswer
      have hnone : lint.run = none := hlint
      refine ⟨?_, fun _ => ⟨⟨_, hfixAnswer, rfl⟩, hsession, hfixRest.trans hlintRest.symm,
        fun _ => hfix, ?_⟩⟩
      · rw [hnone]
        exact truthful_of_refused hfound
      · simp [hnone]
    | file e => simp [perform_lint_of_file h] at hanswer
  · have hfound : (s.contextFor w root).value.1 = .ok c := by rw [h]
    obtain ⟨hlintAnswer, hlint, hlintRest⟩ := perform_lint_of_ok file runtime behaviours h
    obtain ⟨hfixAnswer, hfix, hfixRest⟩ := perform_fix_of_ok file runtime behaviours h
    have hlintRun : lint.run = some (s.lintRun w c file runtime (nextBehaviour behaviours)) := hlint
    have hfixRun : fix.run = some (s.fixRun w c file runtime (nextBehaviour behaviours)) := hfix
    have ho : (conclude (lintOutcome s.settings.linter file)
        (s.lintRun w c file runtime (nextBehaviour behaviours)).ending).value = .ok o := by
      simpa [hlintAnswer] using hanswer
    obtain ⟨result, hseen⟩ := seen_of_conclude ho
    obtain ⟨hfit, hgoes⟩ := goes_of_seen (not_untold_limit s.settings) hseen
    have htruthful := truthful_of_goes hfound (hgoes _ hfit) rfl ho
    refine ⟨by rwa [hlintRun], fun hclear => ?_⟩
    have hresolved : o.status ≠ .contextUnresolved := by
      rw [Ne, htruthful.contextUnresolved_iff, refused_iff]
      simp [hfound]
    have hfit' := fit_of_clear false hfit (hclear.resolve_left hresolved)
    obtain ⟨hevents, o', ho', hstatus⟩ := agrees_of_goes (hgoes _ hfit) (hgoes _ hfit') ho
    refine ⟨⟨o', ?_, hstatus⟩, hsession, hfixRest.trans hlintRest.symm, ?_, ?_⟩
    · exact hfixAnswer.trans (congrArg Answer.fix ho')
    · simp [hlintRun]
    · intro r hr
      obtain rfl : _ = r := by simpa [hlintRun] using hr
      exact ⟨_, hfixRun, hevents, c, hfound, rfl, rfl⟩

/-- A child that goes on after its second is over, and that is gone when it is to be killed. -/
theorem truthful_and_agrees_outlasting :
    let w : World := .ofFiles "/cwd" .empty [("/p", .directory)]
    let settings : Settings := { linter := { timeout := Binary64.ofInt? 1 } }
    let s := Session.ofSettings w settings
    let behaviours : List Behaviour := [.starts ⟨.endless, [], [], none, true, 0⟩]
    let lint := s.perform w (.lint "/p" "a.js" none) behaviours
    let fix := s.perform w (.fix "/p" "a.js" none) behaviours
    ∃ o, lint.answer = .lint (.ok o) ∧ o.status = .toolFailed ∧
      Clear s.settings.linter.fixArguments ∧
      Truthful s w "/p" (nextBehaviour behaviours) lint.run o ∧
      Agrees s w "/p" "a.js" none o.status lint fix := by
  intro w settings s behaviours lint fix
  have hclear : Clear s.settings.linter.fixArguments := by decide +kernel
  have hfailed : lint.answer.status? = some .toolFailed := by decide +kernel
  obtain ⟨e | o, hanswer⟩ := perform_lint s w "/p" "a.js" none behaviours
  · simp [lint, hanswer, Answer.status?] at hfailed
  · obtain ⟨htruthful, hagrees⟩ := truthful_and_agrees s w "/p" "a.js" none behaviours o hanswer
    exact ⟨o, hanswer, by simpa [lint, hanswer, Answer.status?] using hfailed, hclear,
      htruthful, hagrees (.inr hclear)⟩

/-- **A correction does not do all that a check does.** The output of its process is thrown away,
and a process that can be asked for with the arguments of a check may be one that cannot be asked
for with those of a correction. -/
theorem not_forall_agrees :
    ¬(∀ (s : Session) (w : World) (root file : String) (runtime : Option String)
        (behaviours : List Behaviour) (o : LintOutcome),
        let lint := s.perform w (.lint root file runtime) behaviours
        let fix := s.perform w (.fix root file runtime) behaviours
        lint.answer = .lint (.ok o) →
          ∀ r ∈ lint.run, ∃ r' ∈ fix.run,
            r'.request = { r.request with command := r'.request.command }) ∧
      ¬∀ (s : Session) (w : World) (root file : String) (runtime : Option String)
        (behaviours : List Behaviour) (o : LintOutcome),
        let lint := s.perform w (.lint root file runtime) behaviours
        let fix := s.perform w (.fix root file runtime) behaviours
        lint.answer = .lint (.ok o) → ∃ o', fix.answer = .fix (.ok o') ∧ o'.status = o.status := by
  let w : World := .ofFiles "/cwd" .empty [("/p", .directory)]
  let behaviours : List Behaviour := [.starts ⟨.ends, [], [], some 0, false, 0⟩]
  constructor
  · intro h
    let s := Session.ofSettings w {}
    have hok : (s.perform w (.lint "/p" "a.js" none) behaviours).answer.status? = some .ok := by
      decide +kernel
    have hcaptures : (s.perform w (.lint "/p" "a.js" none) behaviours).run.map
        (·.request.capture) = some true := by decide +kernel
    have hdiscards : (s.perform w (.fix "/p" "a.js" none) behaviours).run.map
        (·.request.capture) = some false := by decide +kernel
    obtain ⟨e | o, hanswer⟩ := perform_lint s w "/p" "a.js" none behaviours
    · simp [hanswer, Answer.status?] at hok
    · obtain ⟨r, hr, hcapture⟩ := Option.map_eq_some_iff.mp hcaptures
      obtain ⟨r', hr', hrequest⟩ := h s w "/p" "a.js" none behaviours o hanswer r hr
      rw [Option.mem_def.mp hr', Option.map_some, hrequest] at hdiscards
      simp [hcapture] at hdiscards
  · intro h
    let s := Session.ofSettings w { linter := { fixArguments := ["\x00"] } }
    have hok : (s.perform w (.lint "/p" "a.js" none) behaviours).answer.status? = some .ok := by
      decide +kernel
    have hfault : (s.perform w (.fix "/p" "a.js" none) behaviours).answer.status? = none := by
      decide +kernel
    obtain ⟨e | o, hanswer⟩ := perform_lint s w "/p" "a.js" none behaviours
    · simp [hanswer, Answer.status?] at hok
    · obtain ⟨o', ho', -⟩ := h s w "/p" "a.js" none behaviours o hanswer
      simp [ho', Answer.status?] at hfault

end Session

end ProjectLint
