import Mathlib.Data.List.Induction
import ProjectLint.Proofs.Session.ContextFor

/-!
# Runs of a session

A session receives one call after another, while files, variables and processes change as they
like. What it remembers at any moment is about the last call whose project was found: the root that
this call asked for, and the context that it was given.

## Main definitions

* `Session.Event`: a call, and what it meets.
* `Session.Served`: the root that a call asked for, and the context that it was given.
* `Session.after`, `Session.served`: a session after several calls, and what they were given.
* `Session.Remembers`: what a session knows about the last call whose project was found.

## Main results

* `remembers_after`: a session remembers the last call whose project was found.
-/

namespace ProjectLint.Session

/-- A call, and the files, variables and processes that it meets. -/
structure Event where
  call : Call
  files : FileSystem
  environment : Environment
  behaviours : List Execution.Behaviour

/-- The world of an event, in a given working directory. -/
def Event.world (directory : String) (e : Event) : World := ⟨e.files, e.environment, directory⟩

/-- The root that a call asked for, and the context that it was given. -/
structure Served where
  asked : String
  context : ProjectContext
  deriving DecidableEq, Repr

/-- What a call is given, if its project is found. -/
def served? (directory : String) (s : Session) (e : Event) : Option Served :=
  match (s.contextFor (e.world directory) e.call.root).value.1 with
  | .ok c => some ⟨e.call.root, c⟩
  | .error _ => none

/-- A session after a call. -/
def next (directory : String) (s : Session) (e : Event) : Session :=
  (s.perform (e.world directory) e.call e.behaviours).session

/-- A session after several calls. -/
def after (directory : String) (s : Session) (es : List Event) : Session :=
  es.foldl (next directory) s

/-- What several calls are given, without those whose projects are not found. -/
def served (directory : String) (s : Session) : List Event → List Served
  | [] => []
  | e :: es => (s.served? directory e).toList ++ served directory (s.next directory e) es

variable {directory : String} {s s₀ : Session} {last : Option Served} {root : String}
  {c : ProjectContext} {b' : Binder}

theorem after_snoc (es : List Event) (e : Event) :
    s.after directory (es ++ [e]) = (s.after directory es).next directory e := by
  rw [after, List.foldl_append]
  rfl

theorem served_snoc (es : List Event) (e : Event) :
    s.served directory (es ++ [e]) =
      s.served directory es ++ ((s.after directory es).served? directory e).toList := by
  induction es generalizing s with
  | nil => simp [served, after]
  | cons first es ih =>
    rw [List.cons_append, served, ih, served, List.append_assoc]
    rfl

/-! ### One call -/

/-- A call is given the stored context, or nothing, or the context of a project that was bound. -/
theorem next_cases (directory : String) (s : Session) (e : Event) :
    (∃ c, s.stored? e.call.root = some c ∧ s.served? directory e = some ⟨e.call.root, c⟩ ∧
      s.next directory e = s) ∨
    (∃ fault, s.stored? e.call.root = none ∧ s.served? directory e = none ∧
      s.next directory e = s.fallen fault) ∨
    (∃ c b', s.stored? e.call.root = none ∧
      s.binder.Bound (e.world directory) (some (requested e.call.root)) s.boundRoot c b' ∧
      s.served? directory e = some ⟨e.call.root, c⟩ ∧
      s.next directory e = s.rebound e.call.root c b') := by
  rw [next, perform_session, served?]
  rcases contextFor_cases s (e.world directory) e.call.root with
    ⟨c, hs, hv⟩ | ⟨fault, hs, -, hv⟩ | ⟨c, b', hs, hb, hv⟩
  · exact Or.inl ⟨c, hs, by rw [hv], by rw [hv]⟩
  · exact Or.inr (Or.inl ⟨fault, hs, by rw [hv], by rw [hv]⟩)
  · exact Or.inr (Or.inr ⟨c, b', hs, hb, by rw [hv], by rw [hv]⟩)

/-- No call changes for which linter and on which platform the binder works. -/
theorem next_binder (directory : String) (s : Session) (e : Event) :
    (s.next directory e).binder.linter = s.binder.linter ∧
      (s.next directory e).binder.platform = s.binder.platform := by
  rcases next_cases directory s e with
    ⟨c, -, -, hnext⟩ | ⟨fault, -, -, hnext⟩ | ⟨c, b', -, hb, -, hnext⟩
  · rw [hnext]
    exact ⟨rfl, rfl⟩
  · rw [hnext, fallen_binder]
    exact ⟨rfl, rfl⟩
  · rw [hnext]
    exact ⟨hb.linter_eq, hb.platform_eq⟩

theorem after_binder (directory : String) (s : Session) (es : List Event) :
    (s.after directory es).binder.linter = s.binder.linter ∧
      (s.after directory es).binder.platform = s.binder.platform := by
  induction es using List.reverseRecOn with
  | nil => exact ⟨rfl, rfl⟩
  | append_singleton es e ih =>
    obtain ⟨hlinter, hplatform⟩ := next_binder directory (s.after directory es) e
    rw [after_snoc]
    exact ⟨hlinter.trans ih.1, hplatform.trans ih.2⟩

/-! ### What is remembered -/

/-- What a session knows about the last call whose project was found. The root of the context can
only be told from the root that was asked for if the latter is not empty: otherwise it is the root
that was active before. -/
structure Remembers (s : Session) (last : Option Served) : Prop where
  boundRoot : s.boundRoot = last.map fun x => requested x.asked
  context : s.context = last.map (·.context)
  activeRoot : s.binder.activeRoot = last.bind (·.context.root)
  searchPath : ∀ x ∈ last, x.context.searchPath = s.binder.searchPath
  root : ∀ x ∈ last, requested x.asked ≠ "" →
    x.context.root = some (normalizeRoot s.binder.platform (requested x.asked))
  rooted : s.binder.Rooted

namespace Remembers

theorem new (settings : Settings) {binder : Binder} (h : binder.activeRoot = none) :
    (new settings binder).Remembers none where
  boundRoot := rfl
  context := rfl
  activeRoot := h
  searchPath := by simp
  root := by simp
  rooted := by simp [Session.new, Binder.Rooted, h]

theorem fallen (h : s.Remembers last) (fault : BindFault) : (s.fallen fault).Remembers last where
  boundRoot := by rw [fallen_boundRoot, h.boundRoot]
  context := by rw [fallen_context, h.context]
  activeRoot := by rw [fallen_binder, h.activeRoot]
  searchPath := by rw [fallen_binder]; exact h.searchPath
  root := by rw [fallen_binder]; exact h.root
  rooted := by rw [fallen_binder]; exact h.rooted

/-- A context that is given once more was given to the last call, and for the same root. -/
theorem last_of_stored (h : s.Remembers last) (hs : s.stored? root = some c) :
    ∃ x, last = some x ∧ x.context = c ∧ requested x.asked = requested root := by
  obtain ⟨-, hbound, hcontext⟩ := stored?_eq_some_iff.mp hs
  rw [h.boundRoot] at hbound
  obtain ⟨x, rfl, hx⟩ := Option.map_eq_some_iff.mp hbound
  have hc : some x.context = some c := by rw [← hcontext, h.context]; rfl
  exact ⟨x, rfl, Option.some_inj.mp hc, hx⟩

theorem stored (h : s.Remembers last) (hs : s.stored? root = some c) :
    s.Remembers (some ⟨root, c⟩) := by
  obtain ⟨x, rfl, rfl, hx⟩ := h.last_of_stored hs
  refine ⟨?_, h.context, h.activeRoot, ?_, ?_, h.rooted⟩
  · rw [h.boundRoot, Option.map_some, hx, Option.map_some]
  · rintro y ⟨⟩
    exact h.searchPath x rfl
  · rintro y ⟨⟩ hne
    have := h.root x rfl
    rw [hx] at this
    exact this hne

theorem rebound (h : s.Remembers last) {w : World}
    (hb : s.binder.Bound w (some (requested root)) s.boundRoot c b') :
    (s.rebound root c b').Remembers (some ⟨root, c⟩) where
  boundRoot := rfl
  context := rfl
  activeRoot := hb.context_root_eq.symm
  searchPath := by
    rintro y ⟨⟩
    exact hb.context_searchPath_eq
  root := by
    rintro y ⟨⟩ hne
    rw [hb.context_root_eq, hb.activeRoot_eq, Binder.target_of_ne_empty hne]
    simp only [Session.rebound, hb.platform_eq]
  rooted := hb.rooted h.rooted

/-- A session that remembers the last call still does after one more. -/
theorem next (h : s.Remembers last) (e : Event) :
    (s.next directory e).Remembers ((s.served? directory e).or last) := by
  rcases next_cases directory s e with
    ⟨c, hs, hserved, hnext⟩ | ⟨fault, -, hserved, hnext⟩ | ⟨c, b', -, hb, hserved, hnext⟩
  · rw [hserved, hnext]
    exact h.stored hs
  · rw [hserved, hnext]
    exact h.fallen fault
  · rw [hserved, hnext]
    exact h.rebound hb

end Remembers

theorem getLast?_toList {α : Type} (x : Option α) : x.toList.getLast? = x := by
  cases x <;> rfl

/-- **A session remembers the last call whose project was found.** -/
theorem remembers_after (directory : String) (h : s₀.Remembers none) (es : List Event) :
    (s₀.after directory es).Remembers (s₀.served directory es).getLast? := by
  induction es using List.reverseRecOn with
  | nil => exact h
  | append_singleton es e ih =>
    rw [after_snoc, served_snoc, List.getLast?_append, getLast?_toList]
    exact ih.next e

end ProjectLint.Session
