import ProjectLint.Proofs.Session.Run

/-!
# The machine of two states

Whether a call has to ask the binder, and what becomes of the state, is described by two functions
of the state, the root bound last and the root asked for. A session does not go by them alone. It
looks at the stored context as well, and after a binding it computes the new state as if the old one
had been dirty. That this comes to the same rests on what holds of every session: where it is clean
there is a context, the one that the binder returned last, and the binder has not moved on since.

## Main definitions

* `Session.consulted`: what the binder answers to a call, if it is asked.
* `Session.bindings`: what the binder has returned in several calls.
* `Session.Keeps`: how a session and its binder are related to the context that was returned last.

## Main results

* `Keeps.next`, `keeps_after`: what a call preserves, and what holds after any calls.
* `follows_bindState`: a session goes from state to state as the machine does.
-/

namespace ProjectLint

theorem BindState.next_of_needsBind {state : BindState} {bound : Option String}
    {requested : String} (h : state.needsBind bound requested = true) (succeeded : Option Bool) :
    state.next bound requested succeeded = if succeeded = some true then clean else dirty := by
  rw [next, if_pos h]

theorem BindState.next_of_not_needsBind {state : BindState} {bound : Option String}
    {requested : String} (h : state.needsBind bound requested = false) (succeeded : Option Bool) :
    state.next bound requested succeeded = state := by
  rw [next, if_neg (by simp [h])]

namespace Session

/-- What the binder answers to a call, if it is asked. -/
def consulted (directory : String) (s : Session) (e : Event) :
    Option (Except BindFault ProjectContext) :=
  match s.stored? e.call.root with
  | some _ => none
  | none =>
    let asked := some (requested e.call.root)
    some (s.binder.bind (e.world directory) asked s.boundRoot).value.1

/-- The context that the binder returns in a call. -/
def binding? (directory : String) (s : Session) (e : Event) : Option ProjectContext :=
  (s.consulted directory e).bind Except.toOption

/-- The contexts that the binder returns in several calls. -/
def bindings (directory : String) (s : Session) : List Event → List ProjectContext
  | [] => []
  | e :: es => (s.binding? directory e).toList ++ bindings directory (s.next directory e) es

variable {directory : String} {s s₀ : Session} {last : Option ProjectContext} {e : Event}
  {root : String} {c : ProjectContext} {b' : Binder}

theorem bindings_snoc (es : List Event) (e : Event) :
    s.bindings directory (es ++ [e]) =
      s.bindings directory es ++ ((s.after directory es).binding? directory e).toList := by
  induction es generalizing s with
  | nil => simp [bindings, after]
  | cons first es ih =>
    rw [List.cons_append, bindings, ih, bindings, List.append_assoc]
    rfl

/-! ### One call -/

/-- The three ways in which a call meets the binder. -/
inductive Consults (directory : String) (s : Session) (e : Event) : Prop
  /-- The stored context is used again, and the binder is not asked. -/
  | spared (c : ProjectContext) (stored : s.stored? e.call.root = some c)
      (consulted : s.consulted directory e = none) (next : s.next directory e = s)
  /-- The binder fails. -/
  | failed (fault : BindFault) (stored : s.stored? e.call.root = none)
      (consulted : s.consulted directory e = some (.error fault))
      (search : (s.contextFor (e.world directory) e.call.root).value.1 = .error fault)
      (next : s.next directory e = s.fallen fault)
  /-- The binder returns a context. -/
  | bound (c : ProjectContext) (b' : Binder) (stored : s.stored? e.call.root = none)
      (consulted : s.consulted directory e = some (.ok c))
      (search : (s.contextFor (e.world directory) e.call.root).value.1 = .ok c)
      (bound : s.binder.Bound (e.world directory) (some (requested e.call.root)) s.boundRoot c b')
      (next : s.next directory e = s.rebound e.call.root c b')

theorem consults (directory : String) (s : Session) (e : Event) : Consults directory s e := by
  have hnext : s.next directory e = (s.contextFor (e.world directory) e.call.root).value.2 :=
    perform_session s (e.world directory) e.call e.behaviours
  rcases contextFor_cases s (e.world directory) e.call.root with
    ⟨c, hs, hv⟩ | ⟨fault, hs, hb, hv⟩ | ⟨c, b', hs, hb, hv⟩
  · exact .spared c hs (by simp [consulted, hs]) (by rw [hnext, hv])
  · exact .failed fault hs (by simp [consulted, hs, hb]) (by rw [hv]) (by rw [hnext, hv])
  · have hbind := Binder.bind_eq_ok_iff.mpr hb
    exact .bound c b' hs (by simp [consulted, hs, hbind]) (by rw [hv]) hb (by rw [hnext, hv])

/-- What the binder answers is what the search for a context comes to. -/
theorem search_of_consulted {r : Except BindFault ProjectContext}
    (h : s.consulted directory e = some r) :
    s.contextFor (e.world directory) e.call.root = s.bind (e.world directory) e.call.root ∧
      (s.contextFor (e.world directory) e.call.root).value.1 = r := by
  cases consults directory s e with
  | spared c _ hconsulted _ => simp [hconsulted] at h
  | failed fault hstored hconsulted hsearch _ =>
    obtain rfl : .error fault = r := Option.some_inj.mp (hconsulted.symm.trans h)
    exact ⟨contextFor_eq_bind hstored, hsearch⟩
  | bound c b' hstored hconsulted hsearch _ _ =>
    obtain rfl : .ok c = r := Option.some_inj.mp (hconsulted.symm.trans h)
    exact ⟨contextFor_eq_bind hstored, hsearch⟩

theorem isSome_consulted : (s.consulted directory e).isSome = (s.stored? e.call.root).isNone := by
  unfold consulted
  split
  · next h => simp [h]
  · next h => simp [h]

/-! ### What a session keeps -/

/-- How a session and its binder are related to the context that the binder returned last. -/
structure Keeps (s : Session) (last : Option ProjectContext) : Prop where
  context : s.context = last
  stored : s.state = .clean → last.isSome
  root : ∀ c ∈ last, c.root = s.binder.activeRoot
  searchPath : ∀ c ∈ last, c.searchPath = s.binder.searchPath

namespace Keeps

theorem new (settings : Settings) (binder : Binder) : (Session.new settings binder).Keeps none where
  context := rfl
  stored := by simp [Session.new]
  root := by simp
  searchPath := by simp

/-- A session has no context ready exactly where the machine needs a binding. -/
theorem isNone_stored? (h : s.Keeps last) (root : String) :
    (s.stored? root).isNone = s.state.needsBind s.boundRoot (requested root) := by
  rw [stored?]
  cases hneeds : s.state.needsBind s.boundRoot (requested root) with
  | true => rfl
  | false =>
    have hclean := (BindState.needsBind_eq_false_iff.mp hneeds).1
    obtain ⟨c, hc⟩ := Option.isSome_iff_exists.mp (h.stored hclean)
    simp [h.context, hc]

/-- The binder is asked exactly where the machine needs a binding. -/
theorem isSome_consulted (h : s.Keeps last) (e : Event) :
    (s.consulted directory e).isSome = s.state.needsBind s.boundRoot (requested e.call.root) := by
  rw [Session.isSome_consulted, h.isNone_stored?]

theorem fallen (h : s.Keeps last) (fault : BindFault) : (s.fallen fault).Keeps last where
  context := by rw [fallen_context, h.context]
  stored := by
    cases fault with
    | unusable r reason => simp [Session.fallen]
    | file e => exact h.stored
  root := by rw [fallen_binder]; exact h.root
  searchPath := by rw [fallen_binder]; exact h.searchPath

theorem rebound {w : World}
    (hb : s.binder.Bound w (some (requested root)) s.boundRoot c b') :
    (s.rebound root c b').Keeps (some c) where
  context := rfl
  stored := fun _ => rfl
  root := by
    rintro _ ⟨⟩
    exact hb.context_root_eq
  searchPath := by
    rintro _ ⟨⟩
    exact hb.context_searchPath_eq

/-- A session keeps the context that was returned last, through one more call. -/
theorem next (h : s.Keeps last) (e : Event) :
    (s.next directory e).Keeps ((s.binding? directory e).or last) := by
  cases consults directory s e with
  | spared c _ hconsulted hnext =>
    rw [binding?, hconsulted, hnext]
    exact h
  | failed fault _ hconsulted _ hnext =>
    rw [binding?, hconsulted, hnext]
    exact h.fallen fault
  | bound c b' _ hconsulted _ hb hnext =>
    rw [binding?, hconsulted, hnext]
    exact rebound hb

end Keeps

/-- After any calls a session keeps the context that the binder returned last. -/
theorem keeps_after (directory : String) (h : s₀.Keeps none) (es : List Event) :
    (s₀.after directory es).Keeps (s₀.bindings directory es).getLast? := by
  induction es using List.reverseRecOn with
  | nil => exact h
  | append_singleton es e ih =>
    rw [after_snoc, bindings_snoc, List.getLast?_append, getLast?_toList]
    exact ih.next e

/-- What a call makes of the state and of the root bound last, unless the binder cannot look for the
linter: the machine says the former, and a context that is returned changes the latter. -/
theorem Keeps.transition (h : s.Keeps last) (e : Event)
    (hfile : ∀ fault, s.consulted directory e ≠ some (.error (.file fault))) :
    (s.next directory e).state = s.state.next s.boundRoot (requested e.call.root)
        ((s.consulted directory e).map Except.isOk) ∧
      (s.next directory e).boundRoot =
        if (s.consulted directory e).any Except.isOk then some (requested e.call.root)
        else s.boundRoot := by
  have hneeds : (s.consulted directory e).isSome = _ := h.isSome_consulted e
  cases consults directory s e with
  | spared c _ hconsulted hnext =>
    rw [hconsulted] at hneeds
    rw [hconsulted, hnext, BindState.next_of_not_needsBind hneeds.symm]
    exact ⟨rfl, rfl⟩
  | failed fault _ hconsulted _ hnext =>
    rw [hconsulted] at hneeds
    rw [hconsulted, hnext, BindState.next_of_needsBind hneeds.symm]
    cases fault with
    | unusable r reason => exact ⟨rfl, rfl⟩
    | file fault => exact absurd hconsulted (hfile fault)
  | bound c b' _ hconsulted _ _ hnext =>
    rw [hconsulted] at hneeds
    rw [hconsulted, hnext, BindState.next_of_needsBind hneeds.symm]
    exact ⟨rfl, rfl⟩

/-- Where the binder cannot look for the linter nothing changes. -/
theorem next_of_file {fault : FileFault}
    (h : s.consulted directory e = some (.error (.file fault))) : s.next directory e = s := by
  cases consults directory s e with
  | spared c _ _ hnext => exact hnext
  | failed fault' _ hconsulted _ hnext =>
    obtain rfl : fault' = .file fault := by simpa [hconsulted] using h
    exact hnext
  | bound c b' _ hconsulted _ _ _ => simp [hconsulted] at h

/-- Where the binder is not asked the context that it returned last is returned once more. -/
theorem Keeps.search_of_not_consulted (h : s.Keeps last) (hc : s.consulted directory e = none) :
    ∃ c, last = some c ∧ s.contextFor (e.world directory) e.call.root = pure (.ok c, s) := by
  cases consults directory s e with
  | spared c hstored _ _ =>
    have hcontext : s.context = some c := (stored?_eq_some_iff.mp hstored).2.2
    exact ⟨c, h.context.symm.trans hcontext, contextFor_eq_pure hstored⟩
  | failed fault _ hconsulted _ _ => simp [hconsulted] at hc
  | bound c b' _ hconsulted _ _ _ => simp [hconsulted] at hc

/-- **A session goes from state to state as the machine does.** It receives any calls, while files
and variables change as they like. At every call the binder is asked exactly if the machine needs a
binding; what it answers is the result, and otherwise the context that it returned last is. The new
state is the one that the machine gives for the old one, and the root asked for is remembered
exactly if the binder returned a context; only where the binder cannot even look for the linter
nothing changes. While the session is clean, the context that the binder returned last is stored,
with the binder's own active root and search path; while it is dirty, no stored context is
returned. -/
theorem follows_bindState (directory : String) (settings : Settings) (binder : Binder)
    (es : List Event) (e : Event) :
    let s₀ := Session.new settings binder
    let s := s₀.after directory es
    let s' := s.next directory e
    let last := (s₀.bindings directory es).getLast?
    let asked := requested e.call.root
    let answer := s.consulted directory e
    let search := s.contextFor (e.world directory) e.call.root
    answer.isSome = s.state.needsBind s.boundRoot asked ∧
      (∀ r, answer = some r →
        search = s.bind (e.world directory) e.call.root ∧ search.value.1 = r) ∧
      (answer = none → ∃ c, last = some c ∧ search = pure (.ok c, s)) ∧
      ((∀ fault, answer ≠ some (.error (.file fault))) →
        s'.state = s.state.next s.boundRoot asked (answer.map Except.isOk) ∧
        s'.boundRoot = if answer.any Except.isOk then some asked else s.boundRoot) ∧
      (∀ fault, answer = some (.error (.file fault)) → s' = s) ∧
      (s.state = .clean → ∃ c, s.context = some c ∧ last = some c ∧
        c.root = s.binder.activeRoot ∧ c.searchPath = s.binder.searchPath) ∧
      (s.state = .dirty → answer = some search.value.1) := by
  intro s₀ s s' last asked answer search
  have hkeeps : s.Keeps last := keeps_after directory (.new settings binder) es
  have hasked : answer.isSome = s.state.needsBind s.boundRoot asked := hkeeps.isSome_consulted e
  refine ⟨hasked, fun r => search_of_consulted, hkeeps.search_of_not_consulted,
    hkeeps.transition e, fun fault => next_of_file, fun hclean => ?_, fun hdirty => ?_⟩
  · obtain ⟨c, hc⟩ := Option.isSome_iff_exists.mp (hkeeps.stored hclean)
    exact ⟨c, hkeeps.context.trans hc, hc, hkeeps.root c hc, hkeeps.searchPath c hc⟩
  · rw [hdirty, BindState.needsBind_dirty] at hasked
    obtain ⟨r, hr⟩ := Option.isSome_iff_exists.mp hasked
    rw [(search_of_consulted hr).2]
    exact hr

/-- A project is bound and another one refused, so the first one is bound once more, although its
context is still stored. -/
theorem follows_bindState_after_refusal :
    let w : World := .ofFiles "/cwd" .empty [("/a", .directory)]
    let event (root : String) : Event := ⟨.context root, w.files, w.environment, []⟩
    let s := (Session.ofSettings w {}).after w.directory [event "/a", event "/gone"]
    let s' := s.next w.directory (event "/a")
    (∀ fault, s.consulted w.directory (event "/a") ≠ some (.error (.file fault))) ∧
      s.state = .dirty ∧ s.context.isSome ∧ s'.state = .clean ∧ s'.boundRoot = some "/a" := by
  intro w event s s'
  have hok : (s.consulted w.directory (event "/a")).any Except.isOk = true := by decide +kernel
  have hfile : ∀ fault, s.consulted w.directory (event "/a") ≠ some (.error (.file fault)) := by
    intro fault he
    rw [he] at hok
    exact absurd hok (by simp [Except.isOk, Except.toBool])
  obtain ⟨-, -, -, hnext, -⟩ := follows_bindState w.directory {}
    (.ofEnvironment w {} none none .posix) [event "/a", event "/gone"] (event "/a")
  obtain ⟨hstate, hbound⟩ := hnext hfile
  refine ⟨hfile, by decide +kernel, by decide +kernel, hstate.trans ?_, hbound.trans ?_⟩
  · decide +kernel
  · decide +kernel

end Session
end ProjectLint
