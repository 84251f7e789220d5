import ProjectLint.Proofs.Project.Bind
import ProjectLint.Session.Call

/-!
# What a search for a context comes to

A session that is asked for the context of a project returns the stored one, fails, or binds the
project. Whatever else a call does comes after this and leaves the session as it is.

## Main definitions

* `Session.fallen`: a session after a binding that failed.
* `Session.rebound`: a session after a binding that succeeded.

## Main results

* `contextFor_cases`: the three ways in which a search for a context ends.
* `perform_session`: a call changes the session as its search for a context does.
-/

namespace ProjectLint

/-- Only a clean session whose last root is asked for once more needs no binding. -/
theorem BindState.needsBind_eq_false_iff {state : BindState} {bound : Option String}
    {requested : String} :
    state.needsBind bound requested = false ↔ state = .clean ∧ bound = some requested := by
  cases state <;> simp [needsBind]

namespace Session

variable {s s' : Session} {w : World} {root : String} {c : ProjectContext}

/-! ### Contexts that are stored -/

theorem stored?_eq_some_iff :
    s.stored? root = some c ↔
      s.state = .clean ∧ s.boundRoot = some (requested root) ∧ s.context = some c := by
  rw [stored?]
  cases h : s.state.needsBind s.boundRoot (requested root) with
  | true =>
    have hneeds : ¬(s.state = .clean ∧ s.boundRoot = some (requested root)) := by
      rw [← BindState.needsBind_eq_false_iff, h]
      decide
    simp only [if_true, reduceCtorEq, false_iff]
    exact fun hs => hneeds ⟨hs.1, hs.2.1⟩
  | false =>
    obtain ⟨hstate, hbound⟩ := BindState.needsBind_eq_false_iff.mp h
    simp [hstate, hbound]

/-- A stored context is returned as it is, and nothing else happens. -/
theorem contextFor_eq_pure (h : s.stored? root = some c) :
    s.contextFor w root = pure (.ok c, s) := by
  obtain ⟨hstate, hbound, -⟩ := stored?_eq_some_iff.mp h
  have hnext : s.state.next s.boundRoot (requested root) none = s.state := by
    rw [BindState.next, if_neg]
    rw [Bool.not_eq_true, BindState.needsBind_eq_false_iff]
    exact ⟨hstate, hbound⟩
  simp only [contextFor, h, hnext]

theorem contextFor_of_stored (h : s.stored? root = some c) :
    (s.contextFor w root).value = (.ok c, s) := by
  rw [contextFor_eq_pure h, Logged.value_pure]

/-- Without a stored context the binder is asked. -/
theorem contextFor_eq_bind (h : s.stored? root = none) : s.contextFor w root = s.bind w root := by
  simp only [contextFor, h]

/-! ### Contexts that are bound -/

/-- A session after a binding that failed. A root that is refused leaves it dirty. -/
def fallen (s : Session) : BindFault → Session
  | .unusable .. => { s with state := .dirty }
  | .file _ => s

/-- A session after a binding that succeeded. -/
def rebound (s : Session) (root : String) (c : ProjectContext) (binder : Binder) : Session :=
  { s with
    binder := binder
    context := some c
    state := .clean
    boundRoot := some (requested root) }

theorem fallen_binder (s : Session) (e : BindFault) : (s.fallen e).binder = s.binder := by
  cases e <;> rfl

theorem fallen_boundRoot (s : Session) (e : BindFault) : (s.fallen e).boundRoot = s.boundRoot := by
  cases e <;> rfl

theorem fallen_context (s : Session) (e : BindFault) : (s.fallen e).context = s.context := by
  cases e <;> rfl

theorem bind_of_error {e : BindFault}
    (h : (s.binder.bind w (some (requested root)) s.boundRoot).value = (.error e, s.binder)) :
    (s.bind w root).value = (.error e, s.fallen e) := by
  cases e with
  | unusable r reason => simp [bind, h, fallen]
  | file e => simp [bind, h, fallen]

theorem bind_of_bound {b' : Binder}
    (h : s.binder.Bound w (some (requested root)) s.boundRoot c b') :
    (s.bind w root).value = (.ok c, s.rebound root c b') := by
  simp [bind, Binder.bind_eq_ok_iff.mpr h, rebound]

/-- What is remembered of a binding makes no difference to its answer. -/
theorem bind_value_fst (s : Session) (w : World) (root : String) :
    (s.bind w root).value.1 =
      (s.binder.bind w (some (requested root)) s.boundRoot).value.1 := by
  rcases h : (s.binder.bind w (some (requested root)) s.boundRoot).value with ⟨e | c, b'⟩
  · cases e <;> simp [bind, h]
  · simp [bind, h]

/-- **A search for a context ends in one of three ways.** The session is clean and has just this
project, whose context it returns; or the binder fails; or the binder binds the project. -/
theorem contextFor_cases (s : Session) (w : World) (root : String) :
    (∃ c, s.stored? root = some c ∧ (s.contextFor w root).value = (.ok c, s)) ∨
    (∃ e, s.stored? root = none ∧
      (s.binder.bind w (some (requested root)) s.boundRoot).value = (.error e, s.binder) ∧
      (s.contextFor w root).value = (.error e, s.fallen e)) ∨
    (∃ c b', s.stored? root = none ∧
      s.binder.Bound w (some (requested root)) s.boundRoot c b' ∧
      (s.contextFor w root).value = (.ok c, s.rebound root c b')) := by
  cases hstored : s.stored? root with
  | some c => exact Or.inl ⟨c, rfl, contextFor_of_stored hstored⟩
  | none =>
    rw [contextFor_eq_bind hstored]
    rcases hb : (s.binder.bind w (some (requested root)) s.boundRoot).value with ⟨e | c, b'⟩
    · have hsame : b' = s.binder := by
        have := Binder.bind_error (congrArg Prod.fst hb)
        rwa [hb] at this
      subst hsame
      exact Or.inr (Or.inl ⟨e, rfl, rfl, bind_of_error hb⟩)
    · have hbound := Binder.bind_eq_ok_iff.mp hb
      exact Or.inr (Or.inr ⟨c, b', rfl, hbound, bind_of_bound hbound⟩)

/-! ### Whole calls -/

theorem start_session (s : Session) (w : World) (call : Call) :
    (s.start w call).value.2 = (s.contextFor w call.root).value.2 := by
  rcases h : (s.contextFor w call.root).value with ⟨e | c, s'⟩
  · simp [start, h]
  · simp [start, h]

/-- A call changes the session as its search for a context does. -/
theorem perform_session (s : Session) (w : World) (call : Call)
    (behaviours : List Execution.Behaviour) :
    (s.perform w call behaviours).session = (s.contextFor w call.root).value.2 := by
  rw [← start_session, perform]
  rcases (s.start w call).value with ⟨answer | job, s'⟩
  · rfl
  · rfl

/-- A call without a context runs nothing. -/
theorem perform_of_error (call : Call) (behaviours : List Execution.Behaviour) {e : BindFault}
    (h : (s.contextFor w call.root).value.1 = .error e) :
    (s.perform w call behaviours).run = none ∧
      (s.perform w call behaviours).rest = behaviours := by
  rcases hs : (s.contextFor w call.root).value with ⟨e' | c, s'⟩
  · simp [perform, start, hs]
  · simp [hs] at h

end Session

end ProjectLint
