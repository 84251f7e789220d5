import ProjectLint.Proofs.Session.History

/-!
# Refused calls leave no trace

A call whose root is no directory is refused: it has no context, runs nothing, and leaves the
session dirty. The next call for the project that is still bound then binds it once more, although
its context is stored. In a world that does not change, and with plain roots, this gives the very
context that is stored and leaves the binder as it is. So the run looks the same when the refused
calls are left out: each of the others finds the same context, runs the same process and has the
same answer.

## Main definitions

* `Session.Account`: what is told of a call.
* `Session.accounts`: what is told of several calls, one after another.
* `Session.Shadows`: a session that differs from another one at most in being dirty.

## Main results

* `Settled.bound_again`: to bind the bound project once more changes nothing.
* `Shadows.refused`, `Shadows.search`: what a call preserves that is left out, and one that is not.
* `accounts_without_refused`: a run looks the same without its refused calls.
-/

namespace ProjectLint.Session

/-! ### Accounts -/

/-- What is told of a call: what its search for a context came to, its answer, and the run of its
process, if there was one. -/
structure Account where
  call : Call
  found : Except BindFault ProjectContext
  answer : Answer
  run : Option Execution.Run

/-- Whether the root of the call was refused. -/
def Account.isRefused (a : Account) : Bool :=
  match a.found with
  | .error (.unusable ..) => true
  | _ => false

/-- What is told of a call of a session. -/
def account (s : Session) (w : World) (call : Call) (behaviours : List Execution.Behaviour) :
    Account :=
  let p := s.perform w call behaviours
  ⟨call, (s.contextFor w call.root).value.1, p.answer, p.run⟩

/-- What is told of several calls in one world, one after another, where children behave as listed
in the order in which they are started. -/
def accounts (s : Session) (w : World) :
    List Call → List Execution.Behaviour → List Account
  | [], _ => []
  | call :: calls, behaviours =>
    let p := s.perform w call behaviours
    s.account w call behaviours :: p.session.accounts w calls p.rest

variable {w : World} {b₀ : Binder} {s t : Session} {last : Option Served} {gone : List String}
  {root : String} {call : Call} {behaviours : List Execution.Behaviour}

/-- What a sequence of calls comes to depends only on the session and the behaviours that it begins
with. -/
theorem foldl_next_congr {q r : Sequence} (hsession : q.session = r.session)
    (hrest : q.rest = r.rest) (calls : List Call) :
    (calls.foldl (Sequence.next w) q).session = (calls.foldl (Sequence.next w) r).session ∧
      (calls.foldl (Sequence.next w) q).rest = (calls.foldl (Sequence.next w) r).rest := by
  induction calls generalizing q r with
  | nil => exact ⟨hsession, hrest⟩
  | cons call calls ih =>
    refine ih ?_ ?_
    · simp only [Sequence.next, hsession, hrest]
    · simp only [Sequence.next, hsession, hrest]

theorem inSequence_cons (s : Session) (w : World) (call : Call) (calls : List Call)
    (behaviours : List Execution.Behaviour) :
    let p := s.perform w call behaviours
    let q := s.inSequence w (call :: calls) behaviours
    let r := p.session.inSequence w calls p.rest
    q.session = r.session ∧ q.rest = r.rest := by
  intro p q r
  have hsession : (Sequence.next w (.first s behaviours) call).session = p.session := rfl
  have hrest : (Sequence.next w (.first s behaviours) call).rest = p.rest := rfl
  exact foldl_next_congr hsession hrest calls

/-- Of a session a call uses the settings and what the search for a context comes to. -/
theorem perform_congr (hsettings : s.settings = t.settings)
    (hfound : (s.contextFor w call.root).value.1 = (t.contextFor w call.root).value.1)
    (behaviours : List Execution.Behaviour) :
    (s.perform w call behaviours).answer = (t.perform w call behaviours).answer ∧
      (s.perform w call behaviours).run = (t.perform w call behaviours).run ∧
      (s.perform w call behaviours).rest = (t.perform w call behaviours).rest := by
  rcases hs : (s.contextFor w call.root).value with ⟨e | c, s'⟩ <;>
    rcases ht : (t.contextFor w call.root).value with ⟨e' | c', t'⟩ <;>
    rw [hs, ht] at hfound
  · obtain rfl := Except.error.inj hfound
    simp [perform, start, hs, ht, hsettings]
  · cases hfound
  · cases hfound
  · obtain rfl := Except.ok.inj hfound
    rcases hstarted : (call.proceed t.settings w c).value with answer | job
    · simp [perform, start, hs, ht, hsettings, hstarted]
    · simp [perform, start, hs, ht, hsettings, hstarted]

/-! ### To bind a project once more -/

/-- What a session is settled in does not hang on its state. -/
theorem Settled.withState (h : s.Settled w b₀ last gone) (state : BindState) :
    { s with state := state }.Settled w b₀ last gone where
  platform := h.platform
  remembers := ⟨h.remembers.boundRoot, h.remembers.context, h.remembers.activeRoot,
    h.remembers.searchPath, h.remembers.root, h.remembers.rooted⟩
  plain := h.plain
  alike := h.alike
  follows := h.follows
  searchPath := h.searchPath
  answer := h.answer

/-- **To bind the bound project once more changes nothing.** The context is the one that is stored,
and the binder is as before. -/
theorem Settled.bound_again {c : ProjectContext} {b' : Binder} (h : s.Settled w b₀ last gone)
    (hroot : PlainRoot root) (hbound : s.boundRoot = some (requested root))
    (hb : s.binder.Bound w (some (requested root)) s.boundRoot c b') :
    s.context = some c ∧ b' = s.binder := by
  obtain ⟨x, rfl, hx⟩ : ∃ x, last = some x ∧ requested x.asked = requested root := by
    rw [h.remembers.boundRoot] at hbound
    exact Option.map_eq_some_iff.mp hbound
  have hpath : c.searchPath = x.context.searchPath := by
    rw [h.searchPath x rfl, h.front_eq hroot hbound, ← h.rebound_eq hroot]
    exact hb.context_searchPath_eq_rebound
  have hcontext : x.context = c := by
    have hstored := h.answer x rfl
    rw [hx, ← hpath, h.answer_of_bound hroot hb] at hstored
    exact (Except.ok.inj hstored).symm
  have hactive : s.binder.target (some (requested root)) = s.binder.activeRoot := by
    rw [h.target_eq hroot, h.activeRoot_eq, hbound, Option.map_some]
  have hsearch : s.binder.rebound w (s.binder.target (some (requested root))) s.boundRoot =
      s.binder.searchPath := by
    rw [← hb.context_searchPath_eq_rebound, hpath, h.remembers.searchPath x rfl]
  refine ⟨by rw [h.remembers.context, ← hcontext]; rfl, ?_⟩
  rw [hb.binder, hsearch, hactive]

/-! ### Sessions in the shadow of others -/

/-- A session that differs from another one at most in being dirty where the other one is not. The
other one is settled. -/
structure Shadows (w : World) (b₀ : Binder) (s t : Session) : Prop where
  settled : ∃ last gone, t.Settled w b₀ last gone
  same : s = { t with state := s.state }
  state : s.state = .dirty ∨ s.state = t.state

namespace Shadows

theorem refl (h : s.Settled w b₀ last gone) : Shadows w b₀ s s := ⟨⟨_, _, h⟩, rfl, .inr rfl⟩

theorem settings_eq (h : Shadows w b₀ s t) : s.settings = t.settings := by rw [h.same]

theorem binder_eq (h : Shadows w b₀ s t) : s.binder = t.binder := by rw [h.same]

theorem boundRoot_eq (h : Shadows w b₀ s t) : s.boundRoot = t.boundRoot := by rw [h.same]

theorem context_eq (h : Shadows w b₀ s t) : s.context = t.context := by rw [h.same]

theorem eq_of_clean (h : Shadows w b₀ s t) (hs : s.state ≠ .dirty) : s = t := by
  have hsame := h.same
  rwa [h.state.resolve_left hs] at hsame

/-- The search of a session comes to what that of the other one does. -/
theorem found_eq (h : Shadows w b₀ s t) (hroot : PlainRoot root) :
    (s.contextFor w root).value.1 = (t.contextFor w root).value.1 := by
  obtain ⟨last, gone, hsettled⟩ := h.settled
  have hs : s.Settled w b₀ last gone := by
    rw [h.same]
    exact hsettled.withState s.state
  rw [hs.search_eq hroot, hsettled.search_eq hroot]

/-- A call that is refused leaves the session in the shadow that it was in. -/
theorem refused (h : Shadows w b₀ s t) {r reason : String}
    (hfound : (s.contextFor w root).value.1 = .error (.unusable r reason)) :
    Shadows w b₀ (s.contextFor w root).value.2 t := by
  rcases contextFor_cases s w root with ⟨c, -, hv⟩ | ⟨e, -, -, hv⟩ | ⟨c, b', -, -, hv⟩
  · simp [hv] at hfound
  · obtain rfl : e = .unusable r reason := by simpa [hv] using hfound
    rw [hv]
    refine ⟨h.settled, ?_, .inl rfl⟩
    simp only [fallen]
    rw [h.same]
  · simp [hv] at hfound

/-- To bind a project in the shadow of a session comes to the same as the search of that session,
which may have the context ready. -/
theorem rebound_eq (h : Shadows w b₀ s t) (hroot : PlainRoot root) {c : ProjectContext}
    {b' : Binder} (hb : s.binder.Bound w (some (requested root)) s.boundRoot c b')
    (hfound : (t.contextFor w root).value.1 = .ok c) :
    (t.contextFor w root).value.2 = s.rebound root c b' := by
  obtain ⟨last, gone, hsettled⟩ := h.settled
  rw [h.same] at hb
  rcases contextFor_cases t w root with ⟨c', ht, hv⟩ | ⟨e, -, -, hv⟩ | ⟨c', b₁, -, hbt, hv⟩
  · obtain ⟨hclean, hbound, hcontext⟩ := stored?_eq_some_iff.mp ht
    obtain ⟨hagain, hbinder⟩ := hsettled.bound_again hroot hbound hb
    rw [hv, h.same, Session.rebound, hbinder, ← hagain, ← hbound, ← hclean]
  · simp [hv] at hfound
  · obtain rfl : c' = c := by simpa [hv] using hfound
    obtain rfl : b₁ = b' := by rw [hb.binder, hbt.binder]
    rw [hv, h.same, Session.rebound, Session.rebound]

/-- Any other call leaves the session in the shadow of the other one after the same call. -/
theorem search (h : Shadows w b₀ s t) (hroot : PlainRoot root)
    (hfound : ∀ r reason, (s.contextFor w root).value.1 ≠ .error (.unusable r reason)) :
    Shadows w b₀ (s.contextFor w root).value.2 (t.contextFor w root).value.2 := by
  obtain ⟨last, gone, hsettled⟩ := h.settled
  obtain ⟨last', gone', -, hnext⟩ := hsettled.search hroot
  have hvalue := h.found_eq hroot
  rcases contextFor_cases s w root with ⟨c, hs, -⟩ | ⟨e, -, -, hv⟩ | ⟨c, b', -, hb, hv⟩
  · -- A session that has a context ready is clean, and so is the other one itself.
    have hclean := (stored?_eq_some_iff.mp hs).1
    rw [h.eq_of_clean (by simp [hclean])]
    exact refl hnext
  · rw [hv] at hvalue ⊢
    cases e with
    | unusable r reason => exact absurd (congrArg Prod.fst hv) (hfound r reason)
    | file e =>
      rcases contextFor_cases t w root with ⟨c, -, ht⟩ | ⟨e', -, -, ht⟩ | ⟨c, b', -, -, ht⟩
      · simp [ht] at hvalue
      · obtain rfl : .file e = e' := by simpa [ht] using hvalue
        rwa [ht]
      · simp [ht] at hvalue
  · rw [hv] at hvalue ⊢
    rw [h.rebound_eq hroot hb hvalue.symm] at hnext ⊢
    exact refl hnext

end Shadows

/-! ### Runs without their refused calls -/

theorem isRefused_account_iff :
    (s.account w call behaviours).isRefused = true ↔
      ∃ r reason, (s.contextFor w call.root).value.1 = .error (.unusable r reason) := by
  rw [Account.isRefused, account]
  rcases (s.contextFor w call.root).value.1 with e | c
  · cases e <;> simp
  · simp

/-- A run in the shadow of another one looks like that of its calls that are not refused. -/
theorem Shadows.accounts (h : Shadows w b₀ s t) {calls : List Call}
    (hcalls : ∀ call ∈ calls, PlainRoot call.root) (behaviours : List Execution.Behaviour) :
    let kept := (s.accounts w calls behaviours).filter (!·.isRefused)
    let q := s.inSequence w calls behaviours
    let r := t.inSequence w (kept.map (·.call)) behaviours
    t.accounts w (kept.map (·.call)) behaviours = kept ∧ Shadows w b₀ q.session r.session ∧
      q.rest = r.rest := by
  induction calls generalizing s t behaviours with
  | nil => exact ⟨rfl, h, rfl⟩
  | cons call calls ih =>
    obtain ⟨hroot, hcalls⟩ := List.forall_mem_cons.mp hcalls
    obtain ⟨hsession, hrest⟩ := inSequence_cons s w call calls behaviours
    simp only [Session.accounts, hsession, hrest]
    by_cases hrefused : (s.account w call behaviours).isRefused = true
    · obtain ⟨r, reason, hfound⟩ := isRefused_account_iff.mp hrefused
      have hnext := h.refused hfound
      rw [← perform_session s w call behaviours] at hnext
      rw [List.filter_cons_of_neg (by simp [hrefused]), (perform_of_error _ behaviours hfound).2]
      exact ih hnext hcalls behaviours
    · have hnext := h.search hroot fun r reason hfound =>
        hrefused (isRefused_account_iff.mpr ⟨r, reason, hfound⟩)
      rw [← perform_session s w call behaviours, ← perform_session t w call behaviours] at hnext
      obtain ⟨hanswer, hrun, hused⟩ := perform_congr h.settings_eq (h.found_eq hroot) behaviours
      have haccount : t.account w call behaviours = s.account w call behaviours := by
        rw [account, account, h.found_eq hroot, hanswer, hrun]
      obtain ⟨hsession', hrest'⟩ := inSequence_cons t w call
        (((s.perform w call behaviours).session.accounts w calls
          (s.perform w call behaviours).rest).filter (!·.isRefused) |>.map (·.call)) behaviours
      obtain ⟨haccounts, hshadows, hleft⟩ := ih hnext hcalls (s.perform w call behaviours).rest
      have hcall : (s.account w call behaviours).call = call := rfl
      rw [List.filter_cons_of_pos (by simp [hrefused]), List.map_cons, hcall, hsession', hrest',
        Session.accounts, haccount, ← hused, haccounts]
      exact ⟨rfl, hshadows, hleft⟩

/-- **Refused calls leave no trace.** A session receives any calls about plain roots in a world that
does not change. Without the calls whose roots are refused, the run looks the same: every other call
finds the same context, runs the same process and has the same answer. In the end the session
remembers the same root and the same context, its binder has the same active root and the same
search path, and the same behaviours are left over. -/
theorem accounts_without_refused (w : World) (settings : Settings) (linter : Linter)
    (environment : Option Environment) (defaultDirectory : Option String) (calls : List Call)
    (behaviours : List Execution.Behaviour) (hcalls : ∀ call ∈ calls, PlainRoot call.root) :
    let s₀ := Session.new settings (.ofEnvironment w linter environment defaultDirectory .posix)
    let kept := (s₀.accounts w calls behaviours).filter (!·.isRefused)
    let q := s₀.inSequence w calls behaviours
    let r := s₀.inSequence w (kept.map (·.call)) behaviours
    s₀.accounts w (kept.map (·.call)) behaviours = kept ∧
      q.session.boundRoot = r.session.boundRoot ∧ q.session.context = r.session.context ∧
      q.session.binder = r.session.binder ∧ q.rest = r.rest := by
  intro s₀ kept q r
  have hnew : s₀.Settled w s₀.binder none [] := .new settings w rfl rfl
  obtain ⟨haccounts, hshadows, hrest⟩ := (Shadows.refl hnew).accounts hcalls behaviours
  exact ⟨haccounts, hshadows.boundRoot_eq, hshadows.context_eq, hshadows.binder_eq, hrest⟩

/-- A project is bound, another root is refused, and the first project is bound once more. -/
theorem accounts_without_gone :
    let w : World := .ofFiles "/cwd" (.set .empty "NODE_PATH" "/lib:/a/node_modules")
      [("/a", .directory), ("/b", .directory)]
    let calls : List Call :=
      [.lint "/a" "x.js" none, .context "/gone", .version "/a/" none, .fix "/b" "y.js" none]
    let others : List Call := [.lint "/a" "x.js" none, .version "/a/" none, .fix "/b" "y.js" none]
    let behaviours : List Execution.Behaviour :=
      [.refused .accessDenied, .starts ⟨.ends, [], [], some 0, false, 0⟩]
    (∀ call ∈ calls, PlainRoot call.root) ∧
      (Session.new {} (.ofEnvironment w {} none none .posix)).accounts w others behaviours =
        ((Session.new {} (.ofEnvironment w {} none none .posix)).accounts w calls
          behaviours).filter (!·.isRefused) := by
  intro w calls others behaviours
  have hcalls : ∀ call ∈ calls, PlainRoot call.root := by decide +kernel
  have hothers : (((Session.new {} (.ofEnvironment w {} none none .posix)).accounts w calls
      behaviours).filter (!·.isRefused)).map (·.call) = others := by
    decide +kernel
  obtain ⟨haccounts, -⟩ := accounts_without_refused w {} {} none none calls behaviours hcalls
  rw [hothers] at haccounts
  exact ⟨hcalls, haccounts⟩

end ProjectLint.Session
