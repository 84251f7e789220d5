import ProjectLint.Proofs.Execution.Output
import ProjectLint.Proofs.Project.Locate
import ProjectLint.Proofs.Session.Outcome

/-!
# What a callback receives

A call with a callback ought to hand over one thing, its outcome: failures of the binding and of the
process are outcomes too. What is no outcome is a fault, and for a fault nothing is handed over.
There are four of them. The search for the linter can come to a path about which the system cannot
be asked; the process can be one that the system cannot be asked for; it can go on forever, where
there is no limit; and a process that ends well can print a number that is too long to be read. A
correction does not read what its process prints, so only the first three can happen to it.

## Main definitions

* `Session.Stranded`, `Session.Barred`, `Session.Unending`, `Session.Garbled`: the four faults, said
  of the session and what it meets.
* `Session.Ends`: the ways in which a call comes to an outcome or to a fault.

## Main results

* `perform_lintTo`, `perform_fixTo`: with and without a callback a call comes to the same.
* `Ends.lint_fault_iff`, `Ends.fix_fault_iff`: when it comes to a fault.
* `callback_delivered`: a callback receives the outcome, once, exactly where there is one.
* `not_forall_delivered`: a number can keep a callback from receiving anything.
-/

namespace ProjectLint

namespace Session

/-- The binder is asked for a project, and the search for its linter is stranded. -/
def Stranded (s : Session) (w : World) (root : String) : Prop :=
  s.stored? root = none ∧
    ∃ r ∈ s.binder.target (some (requested root)), w.isDirectory r = true ∧
      Strands w r s.binder.linter s.binder.platform

instance (s : Session) (w : World) (root : String) : Decidable (s.Stranded w root) :=
  inferInstanceAs (Decidable (_ ∧ ∃ r ∈ s.binder.target (some (requested root)), _))

/-- A call meets a context, and the system cannot be asked for its command there: a text has a NUL
character, or the name of a variable has an equals sign. -/
def Barred (s : Session) (w : World) (root : String) (command : ProjectContext → List String) :
    Prop :=
  ∃ c, (s.contextFor w root).value.1 = .ok c ∧ ¬(request w c (command c) true).Fit

instance (s : Session) (w : World) (root : String) (command : ProjectContext → List String) :
    Decidable (s.Barred w root command) :=
  match h : (s.contextFor w root).value.1 with
  | .ok c => decidable_of_iff (¬(request w c (command c) true).Fit) (by simp [Barred, h])
  | .error _ => .isFalse (by simp [Barred, h])

/-- A call meets a context, and its process goes on with nothing to stop it. -/
def Unending (s : Session) (w : World) (root : String) (behaviours : List Execution.Behaviour) :
    Prop :=
  (∃ c, (s.contextFor w root).value.1 = .ok c) ∧
    ∃ child, nextBehaviour behaviours = .starts child ∧
      Execution.Unending (limit s.settings) .none child

/-- A check meets a context, and the output of its process is garbled. -/
def Garbled (s : Session) (w : World) (root : String) (behaviours : List Execution.Behaviour) :
    Prop :=
  (∃ c, (s.contextFor w root).value.1 = .ok c) ∧
    Execution.Garbles (limit s.settings) (nextBehaviour behaviours)

/-- The command of a check in a context. -/
def lintCommand (s : Session) (file : String) (runtime : Option String) (c : ProjectContext) :
    List String :=
  Command.lint s.settings.linter c file (runtime.getD s.settings.runtime)

/-- The command of a correction in a context. -/
def fixCommand (s : Session) (file : String) (runtime : Option String) (c : ProjectContext) :
    List String :=
  Command.fix s.settings.linter c file (runtime.getD s.settings.runtime)

variable {s : Session} {w : World} {root file : String} {runtime : Option String}
  {behaviours : List Execution.Behaviour} {command : ProjectContext → List String}

/-- A search for a context ends in a fault of its own exactly when it is stranded. -/
theorem stranded_iff :
    s.Stranded w root ↔ ∃ e, (s.contextFor w root).value.1 = .error (.file e) := by
  rw [Stranded, ← Binder.bind_eq_file_iff s.binder w _ s.boundRoot]
  cases hstored : s.stored? root with
  | some c => simp [contextFor_of_stored hstored]
  | none => rw [contextFor_eq_bind hstored, bind_value_fst]; simp

/-! ### The outcome behind a delivery -/

/-- What a check comes to whose project is not bound. -/
def unboundLint : BindFault → Except Fault LintOutcome
  | .unusable root reason =>
    .ok { status := .contextUnresolved, failure := some (.context root reason) }
  | .file e => .error (.file e)

/-- What a correction comes to whose project is not bound. -/
def unboundFix : BindFault → Except Fault FixOutcome
  | .unusable root reason =>
    .ok { status := .contextUnresolved, failure := some (.context root reason) }
  | .file e => .error (.file e)

/-- The two ways in which a call comes to an outcome, or to a fault: from a project that is not
bound, or from the run of a process. -/
inductive Ends {α : Type} (s : Session) (w : World) (root : String)
    (behaviours : List Execution.Behaviour) (command : ProjectContext → List String)
    (ofFault : BindFault → Except Fault α)
    (ofResult : Except Execution.Failure Execution.Result → Logged (Except Fault α))
    (capture : Bool) : Except Fault α → Prop
  | unbound (e : BindFault) (search : (s.contextFor w root).value.1 = .error e) :
    Ends s w root behaviours command ofFault ofResult capture (ofFault e)
  | ended (c : ProjectContext) (search : (s.contextFor w root).value.1 = .ok c) :
    Ends s w root behaviours command ofFault ofResult capture
      (conclude ofResult (Execution.run (request w c (command c) capture) (limit s.settings) .none
        (nextBehaviour behaviours)).ending).value

/-- With and without a callback a check comes to the same. -/
theorem perform_lintTo (s : Session) (w : World) (callback : Callback) (root file : String)
    (runtime : Option String) (behaviours : List Execution.Behaviour) :
    ∃ outcome, (s.perform w (.lint root file runtime) behaviours).answer = .lint outcome ∧
      (s.perform w (.lintTo callback root file runtime) behaviours).answer =
        (deliverLint s.settings.surfaceErrors callback outcome).value ∧
      Ends s w root behaviours (s.lintCommand file runtime) unboundLint
        (lintOutcome s.settings.linter file) true outcome := by
  simp only [perform, start, Logged.value_bind, Call.root]
  rcases h : (s.contextFor w root).value with ⟨e | context, s'⟩
  · have hsearch : (s.contextFor w root).value.1 = .error e := by rw [h]
    cases e <;> exact ⟨_, rfl, rfl, .unbound _ hsearch⟩
  · have hsearch : (s.contextFor w root).value.1 = .ok context := by rw [h]
    exact ⟨_, rfl, rfl, .ended context hsearch⟩

/-- With and without a callback a correction comes to the same. -/
theorem perform_fixTo (s : Session) (w : World) (callback : Callback) (root file : String)
    (runtime : Option String) (behaviours : List Execution.Behaviour) :
    ∃ outcome, (s.perform w (.fix root file runtime) behaviours).answer = .fix outcome ∧
      (s.perform w (.fixTo callback root file runtime) behaviours).answer =
        (deliverFix s.settings.surfaceErrors callback outcome).value ∧
      Ends s w root behaviours (s.fixCommand file runtime) unboundFix
        (fixOutcome s.settings.linter) false outcome := by
  simp only [perform, start, Logged.value_bind, Call.root]
  rcases h : (s.contextFor w root).value with ⟨e | context, s'⟩
  · have hsearch : (s.contextFor w root).value.1 = .error e := by rw [h]
    cases e <;> exact ⟨_, rfl, rfl, .unbound _ hsearch⟩
  · have hsearch : (s.contextFor w root).value.1 = .ok context := by rw [h]
    exact ⟨_, rfl, rfl, .ended context hsearch⟩

/-! ### Outcomes and faults -/

theorem unboundLint_eq_error_iff {e : BindFault} :
    (∃ fault, unboundLint e = .error fault) ↔ ∃ fault, e = .file fault := by
  cases e <;> simp [unboundLint]

theorem unboundFix_eq_error_iff {e : BindFault} :
    (∃ fault, unboundFix e = .error fault) ↔ ∃ fault, e = .file fault := by
  cases e <;> simp [unboundFix]

/-- What comes of a run is a fault if the call sees none of its results and failures, or if what it
makes of what it sees is one. -/
theorem conclude_eq_error_iff {α : Type} {ending : Option Execution.Ending}
    {ofResult : Except Execution.Failure Execution.Result → Logged (Except Fault α)} :
    (∃ fault, (conclude ofResult ending).value = .error fault) ↔
      (∃ fault, seen ending = .error fault) ∨
        ∃ result, seen ending = .ok result ∧ ∃ fault, (ofResult result).value = .error fault := by
  rw [conclude]
  cases seen ending <;> simp

/-- A check whose process was run is a fault exactly when the output is refused. -/
theorem lintOutcome_eq_error_iff {linter : Linter}
    {result : Except Execution.Failure Execution.Result} :
    (∃ fault, (lintOutcome linter file result).value = .error fault) ↔
      ∃ r, result = .ok r ∧ ∃ e, Report.ofOutput r.output = .error e := by
  cases result with
  | error e => simp [lintOutcome]
  | ok r => cases h : Report.ofOutput r.output <;> simp [lintOutcome, h]

/-- A correction whose process was run is no fault. -/
theorem fixOutcome_ne_error (linter : Linter) (result : Except Execution.Failure Execution.Result)
    (fault : Fault) : (fixOutcome linter result).value ≠ .error fault := by
  cases result <;> simp [fixOutcome]

theorem seen_eq_ok_ok_iff {ending : Option Execution.Ending} {result : Execution.Result} :
    seen ending = .ok (.ok result) ↔ ending = some (.ended result) := by
  rcases ending with _ | _ | _ | _ | _ <;> simp [seen]

/-- A call sees neither a result nor a failure exactly if the system cannot be asked, or if the
child goes on forever. -/
theorem seen_run_eq_error_iff {q : Execution.Request} {behaviour : Execution.Behaviour} :
    (∃ fault, seen (Execution.run q (limit s.settings) .none behaviour).ending = .error fault) ↔
      ¬q.Fit ∨ ∃ child, behaviour = .starts child ∧
        Execution.Unending (limit s.settings) .none child := by
  constructor
  · rintro ⟨fault, h⟩
    have hends := Execution.ends_ending q (limit s.settings) .none behaviour
    generalize (Execution.run q (limit s.settings) .none behaviour).ending = ending at h hends
    cases hends with
    | misnamed _ hnamed => exact .inl fun hfit => hfit.1 hnamed
    | nul _ _ hnul => exact .inl fun hfit => hfit.2 hnul
    | untold child _ _ huntold => exact absurd huntold (not_untold_limit s.settings)
    | cancelled child _ hstopped => exact absurd hstopped.cancelled (by decide)
    | unmeasured child _ hlarge => exact absurd hlarge (not_tooLarge_limit s.settings)
    | unending child _ hchild => exact .inr ⟨child, rfl, hchild⟩
    | _ => simp [seen] at h
  · intro h
    by_cases hfit : q.Fit
    · obtain ⟨child, rfl, hchild⟩ := h.resolve_left (not_not.mpr hfit)
      exact ⟨.unending, by rw [(Execution.Ends.unending child hfit hchild).ending_eq, seen]⟩
    · rcases Execution.Request.fault?_of_not_fit hfit with hfault | hfault <;>
        exact ⟨_, by rw [Execution.ending_of_fault hfault, seen]⟩

/-- A check is a fault exactly when its search for a context is stranded, its process cannot be
asked for or goes on forever, or its output is garbled. -/
theorem Ends.lint_fault_iff {linter : Linter} {outcome : Except Fault LintOutcome}
    (h : Ends s w root behaviours command unboundLint (lintOutcome linter file) true outcome) :
    (∃ fault, outcome = .error fault) ↔
      s.Stranded w root ∨ s.Barred w root command ∨ s.Unending w root behaviours ∨
        s.Garbled w root behaviours := by
  rw [stranded_iff, Barred, Session.Unending, Garbled]
  cases h with
  | unbound e search => simp [search, unboundLint_eq_error_iff]
  | ended c search =>
    rw [conclude_eq_error_iff, seen_run_eq_error_iff]
    by_cases hfit : (request w c (command c) true).Fit
    · simp [search, hfit, lintOutcome_eq_error_iff, seen_eq_ok_ok_iff,
        Execution.garbles_iff hfit rfl]
    · simp [search, hfit]

/-- A correction is a fault exactly when its search for a context is stranded, or its process cannot
be asked for or goes on forever. -/
theorem Ends.fix_fault_iff {linter : Linter} {outcome : Except Fault FixOutcome}
    (h : Ends s w root behaviours command unboundFix (fixOutcome linter) false outcome) :
    (∃ fault, outcome = .error fault) ↔
      s.Stranded w root ∨ s.Barred w root command ∨ s.Unending w root behaviours := by
  rw [stranded_iff, Barred, Session.Unending]
  cases h with
  | unbound e search => simp [search, unboundFix_eq_error_iff]
  | ended c search =>
    rw [conclude_eq_error_iff, seen_run_eq_error_iff]
    have hsame : (request w c (command c) false).Fit ↔ (request w c (command c) true).Fit := Iff.rfl
    simp [search, hsame, fixOutcome_ne_error]

/-! ### Deliveries -/

theorem LintOutcome.delivery_eq (surfaceErrors : Bool) (o : LintOutcome) :
    o.delivery surfaceErrors =
      if surfaceErrors ∧ o.failure.isSome then ⟨o.failure, none⟩ else ⟨none, some o.report⟩ := by
  rw [delivery]
  cases o.failure <;> cases surfaceErrors <;> rfl

/-- A check hands over its outcome, and nothing if there is none. -/
theorem lintTo_answer (s : Session) (w : World) (callback : Callback) (root file : String)
    (runtime : Option String) (behaviours : List Execution.Behaviour) :
    let lintTo := s.perform w (.lintTo callback root file runtime) behaviours
    let lost := s.Stranded w root ∨ s.Barred w root (s.lintCommand file runtime) ∨
      s.Unending w root behaviours ∨ s.Garbled w root behaviours
    (lost → ∃ fault, lintTo.answer = .lintTo [] (some fault)) ∧
      (¬lost → ∃ o, (s.perform w (.lint root file runtime) behaviours).answer = .lint (.ok o) ∧
        lintTo.answer = .lintTo [o.delivery s.settings.surfaceErrors] none) := by
  intro lintTo lost
  obtain ⟨outcome, hlint, hlintTo, hends⟩ :=
    perform_lintTo s w callback root file runtime behaviours
  cases outcome with
  | error fault =>
    exact ⟨fun _ => ⟨fault, hlintTo⟩, fun h => absurd (hends.lint_fault_iff.mp ⟨fault, rfl⟩) h⟩
  | ok o =>
    refine ⟨fun h => ?_, fun _ => ⟨o, hlint, hlintTo⟩⟩
    obtain ⟨fault, hfault⟩ := hends.lint_fault_iff.mpr h
    cases hfault

/-- A correction hands over its outcome, and nothing if there is none. -/
theorem fixTo_answer (s : Session) (w : World) (callback : Callback) (root file : String)
    (runtime : Option String) (behaviours : List Execution.Behaviour) :
    let fixTo := s.perform w (.fixTo callback root file runtime) behaviours
    let lost := s.Stranded w root ∨ s.Barred w root (s.fixCommand file runtime) ∨
      s.Unending w root behaviours
    (lost → ∃ fault, fixTo.answer = .fixTo [] (some fault)) ∧
      (¬lost → ∃ o, (s.perform w (.fix root file runtime) behaviours).answer = .fix (.ok o) ∧
        fixTo.answer = .fixTo [o.delivery s.settings.surfaceErrors] none) := by
  intro fixTo lost
  obtain ⟨outcome, hfix, hfixTo, hends⟩ := perform_fixTo s w callback root file runtime behaviours
  cases outcome with
  | error fault =>
    exact ⟨fun _ => ⟨fault, hfixTo⟩, fun h => absurd (hends.fix_fault_iff.mp ⟨fault, rfl⟩) h⟩
  | ok o =>
    refine ⟨fun h => ?_, fun _ => ⟨o, hfix, hfixTo⟩⟩
    obtain ⟨fault, hfault⟩ := hends.fix_fault_iff.mpr h
    cases hfault

/-- **A callback receives the outcome, once, exactly where there is one.** In any session and world,
whatever the process does and whether or not the callback fails, a call hands over one thing, unless
its search for a context is stranded, the system cannot be asked for its process, the process goes
on with nothing to stop it or, for a check, its output is garbled; then it hands over nothing. What
is handed over comes from the outcome of the same call without a callback. For a check this is the
failure alone if failures are surfaced and there is one, and the report alone otherwise; for a
correction it is the failure, if failures are surfaced. -/
theorem callback_delivered (s : Session) (w : World) (callback : Callback) (root file : String)
    (runtime : Option String) (behaviours : List Execution.Behaviour) :
    let surface := s.settings.surfaceErrors
    let lint := s.perform w (.lint root file runtime) behaviours
    let lintTo := s.perform w (.lintTo callback root file runtime) behaviours
    let fix := s.perform w (.fix root file runtime) behaviours
    let fixTo := s.perform w (.fixTo callback root file runtime) behaviours
    let lintLost := s.Stranded w root ∨ s.Barred w root (s.lintCommand file runtime) ∨
      s.Unending w root behaviours ∨ s.Garbled w root behaviours
    let fixLost := s.Stranded w root ∨ s.Barred w root (s.fixCommand file runtime) ∨
      s.Unending w root behaviours
    ((lintLost → ∃ fault, lintTo.answer = .lintTo [] (some fault)) ∧
      (¬lintLost → ∃ o, lint.answer = .lint (.ok o) ∧
        lintTo.answer = .lintTo
          [if surface ∧ o.failure.isSome then ⟨o.failure, none⟩ else ⟨none, some o.report⟩]
          none)) ∧
    (fixLost → ∃ fault, fixTo.answer = .fixTo [] (some fault)) ∧
      (¬fixLost → ∃ o, fix.answer = .fix (.ok o) ∧
        fixTo.answer = .fixTo [⟨if surface then o.failure else none⟩] none) := by
  intro surface lint lintTo fix fixTo lintLost fixLost
  obtain ⟨hlost, hkept⟩ := lintTo_answer s w callback root file runtime behaviours
  refine ⟨⟨hlost, fun h => ?_⟩, fixTo_answer s w callback root file runtime behaviours⟩
  obtain ⟨o, hlint, hlintTo⟩ := hkept h
  exact ⟨o, hlint, by rwa [LintOutcome.delivery_eq] at hlintTo⟩

/-- A check and a correction are reported to callbacks that fail, the former with a finding. -/
theorem callback_delivered_to_failing :
    let w : World := .ofFiles "/cwd" .empty [("/p", .directory)]
    let s := Session.ofSettings w { surfaceErrors := true }
    let output : List UInt8 := "a: line 2, col 3, E - m r".toList.map fun c => UInt8.ofNat c.toNat
    let child : Execution.Child := ⟨.ends, output, [], some 1, false, 0⟩
    let lintTo := s.perform w (.lintTo (.fails "E") "/p" "a.js" none) [.starts child]
    let fixTo := s.perform w (.fixTo (.fails "E") "/p" "a.js" none) [.starts child]
    ¬s.Stranded w "/p" ∧ ¬s.Barred w "/p" (s.lintCommand "a.js" none) ∧
      ¬s.Barred w "/p" (s.fixCommand "a.js" none) ∧ ¬s.Unending w "/p" [.starts child] ∧
      ¬s.Garbled w "/p" [.starts child] ∧ (∃ d, lintTo.answer = .lintTo [d] none) ∧
      ∃ d, fixTo.answer = .fixTo [d] none := by
  intro w s output child lintTo fixTo
  have hstranded : ¬s.Stranded w "/p" := by decide +kernel
  have hlint : ¬s.Barred w "/p" (s.lintCommand "a.js" none) := by decide +kernel
  have hfix : ¬s.Barred w "/p" (s.fixCommand "a.js" none) := by decide +kernel
  have hunending : ¬s.Unending w "/p" [.starts child] := by
    rintro ⟨-, _, ⟨⟩, -, hfate, -⟩
    exact absurd hfate (by decide)
  have hgarbled : ¬s.Garbled w "/p" [.starts child] := by
    rintro ⟨-, _, ⟨⟩, -, hline⟩
    obtain ⟨e, he⟩ := Report.ofOutput_eq_error_iff.mpr hline
    have hok : (Report.ofOutput (Execution.decode child.output)).isOk = true := by decide +kernel
    rw [he] at hok
    exact absurd hok (by simp [Except.isOk, Except.toBool])
  obtain ⟨⟨-, hlintTo⟩, -, hfixTo⟩ :=
    callback_delivered s w (.fails "E") "/p" "a.js" none [.starts child]
  obtain ⟨o, -, hlintTo⟩ := hlintTo (by simp [hstranded, hlint, hunending, hgarbled])
  obtain ⟨o', -, hfixTo⟩ := hfixTo (by simp [hstranded, hfix, hunending])
  exact ⟨hstranded, hlint, hfix, hunending, hgarbled, ⟨_, hlintTo⟩, _, hfixTo⟩

/-! ### A check that is lost -/

/-- The line of a finding whose line number has the given number of digits. -/
def farLine (digits : Nat) : Report.Reading :=
  { file := ['a']
    header := ⟨' ', ' ', List.replicate digits '1', ' ', ' ', ['1'], ' ', ['E'], ' ', ' '⟩
    trailer := ⟨['m'], ' ', ['r']⟩ }

theorem valid_farLine {digits : Nat} (h : digits ≠ 0) : (farLine digits).Valid where
  file_ne_nil := by simp [farLine]
  file := by simp [farLine]
  header := by
    constructor <;> simp [farLine, h, Text.isBlank]
  trailer := by
    constructor <;> simp [farLine, Text.isBlank]

theorem text_farLine (digits : Nat) :
    (farLine digits).text =
      "a: line ".toList ++ (List.replicate digits '1' ++ ", col 1, E - m r".toList) := by
  simp [farLine, Report.Reading.text, Report.Header.text, Report.Trailer.text]

/-- The line is printed in ASCII and has no line feed. -/
theorem ascii_farLine (digits : Nat) :
    ∀ c ∈ (farLine digits).text, c.toNat < 0x80 ∧ c ≠ '\n' := by
  rw [text_farLine]
  simp only [List.forall_mem_append]
  refine ⟨by simp, fun c hc => ?_, by simp⟩
  rw [List.eq_of_mem_replicate hc]
  decide

theorem core_farLine (digits : Nat) :
    Report.Line.core (farLine digits).text = (farLine digits).text := by
  rw [Report.Line.core_eq_dropLastWhile fun h => (ascii_farLine digits _ h).2 rfl, text_farLine,
    Text.dropLastWhile]
  simp

theorem lines_farLine (digits : Nat) :
    Text.lines (farLine digits).text = [(farLine digits).text] :=
  List.splitOn_eq_singleton fun h => (ascii_farLine digits _ h).2 rfl

/-- A child that prints this line and ends. -/
def farChild (digits : Nat) : Execution.Child :=
  { fate := .ends
    output := (farLine digits).text.map fun c => UInt8.ofNat c.toNat
    errors := []
    status := some 1
    vanishes := false
    delay := 0 }

/-- A line number with too many digits garbles the output. -/
theorem garbles_farChild {digits : Nat} (h : Text.Numeral.maxDigits < digits)
    {limit : Option Execution.Limit} (hlimit : Execution.Timely limit) :
    Execution.Garbles limit (.starts (farChild digits)) := by
  have hdecode : Execution.decode (farChild digits).output = String.ofList (farLine digits).text :=
    Execution.decode_ascii fun c hc => (ascii_farLine digits c hc).1
  have hvalid : (farLine digits).Valid := valid_farLine (Nat.ne_of_gt (Nat.zero_lt_of_lt h))
  obtain ⟨r, hr, hheader⟩ := Report.Reading.exists_isLongest_of_oneColon hvalid
    (by simp [farLine]) (by simp [farLine]) (by simp [farLine, Report.Trailer.text])
  refine ⟨_, rfl, ⟨hlimit, rfl, rfl⟩, ?_⟩
  rw [hdecode, String.toList_ofList, lines_farLine]
  refine ⟨_, List.mem_singleton_self _, r, by rwa [core_farLine], Or.inl ?_⟩
  simpa [hheader, farLine] using h

/-- **Not every check is reported.** A child prints a finding on a line whose number has one digit
more than are read, and ends; and the callback receives nothing. -/
theorem not_forall_delivered :
    ¬∀ (s : Session) (w : World) (callback : Callback) (root file : String)
      (runtime : Option String) (child : Execution.Child), child.fate = .ends →
      ∃ delivery, (s.perform w (.lintTo callback root file runtime) [.starts child]).answer =
        .lintTo [delivery] none := by
  intro h
  let w : World := .ofFiles "/cwd" .empty [("/p", .directory)]
  let s := Session.ofSettings w {}
  obtain ⟨delivery, hdelivery⟩ := h s w .accepts "/p" "a.js" none (farChild 4301) rfl
  have hcontext : (s.contextFor w "/p").value.1.isOk = true := by decide +kernel
  have hgarbled : s.Garbled w "/p" [.starts (farChild 4301)] := by
    refine ⟨?_, garbles_farChild (by decide) (Execution.timely_of_unlimited (.inl rfl))⟩
    cases hc : (s.contextFor w "/p").value.1 with
    | error e => simp [hc, Except.isOk, Except.toBool] at hcontext
    | ok c => exact ⟨c, rfl⟩
  obtain ⟨hlost, -⟩ := lintTo_answer s w .accepts "/p" "a.js" none [.starts (farChild 4301)]
  obtain ⟨fault, hfault⟩ := hlost (.inr (.inr (.inr hgarbled)))
  exact absurd (hdelivery.symm.trans hfault) (by simp)

end Session
end ProjectLint
