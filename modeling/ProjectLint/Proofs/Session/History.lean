import ProjectLint.Proofs.Project.BindRun
import ProjectLint.Proofs.Session.Run
import ProjectLint.Proofs.Session.Sequence

/-!
# A context does not depend on the history

Each binding leaves its traces in the session and in the binder: the context that may be used again,
the search path, the root whose directory the next binding takes out. In a world that does not
change, and with plain roots, none of these shows in a context that is asked for later. What was
served before matters only for the entries that the search path had at the beginning: an entry that
is the module directory of another project is gone once that project was served.

## Main definitions

* `Session.Settled`: how a session is related to the binder that it began with.

## Main results

* `Settled.search_eq`: what a search for a context comes to.
* `Settled.search`, `settled_inSequence`: what a call preserves, and what holds after any calls.
* `contextFor_inSequence`: a context is the one that a new session would give.
-/

namespace ProjectLint

namespace Session

/-- How a session is related to the binder that it began with, in a world that does not change. The
directories that have been in front of the search path since then are `gone`. -/
structure Settled (w : World) (b₀ : Binder) (s : Session) (last : Option Served)
    (gone : List String) : Prop where
  platform : b₀.platform = .posix
  remembers : s.Remembers last
  plain : ∀ x ∈ last, PlainRoot x.asked
  alike : s.binder.Alike b₀
  follows : Binder.Follows w.directory b₀ s.binder gone
  searchPath : ∀ x ∈ last, x.context.searchPath = s.binder.front w.directory ++
    SearchPath.ambient b₀.searchPath (s.binder.front w.directory ++ gone)
  answer : ∀ x ∈ last,
    b₀.answer w (some (normalizeRoot .posix (requested x.asked))) x.context.searchPath =
      .ok x.context

variable {w : World} {b₀ : Binder} {s : Session} {last : Option Served} {gone : List String}
  {root : String}

namespace Settled

theorem new (settings : Settings) (w : World) (hplatform : b₀.platform = .posix)
    (hactive : b₀.activeRoot = none) : (Session.new settings b₀).Settled w b₀ none [] where
  platform := hplatform
  remembers := .new settings hactive
  plain := by simp
  alike := ⟨rfl, rfl, rfl⟩
  follows := .refl hactive
  searchPath := by simp
  answer := by simp

theorem platform_eq (h : s.Settled w b₀ last gone) : s.binder.platform = .posix :=
  h.alike.platform.trans h.platform

theorem moduleDirectory_eq (h : s.Settled w b₀ last gone) :
    s.binder.moduleDirectory w = b₀.moduleDirectory w := by
  funext root
  rw [Binder.moduleDirectory, h.alike.linter, h.alike.platform, Binder.moduleDirectory]

/-- A separator at the end of a plain root makes no difference to its directory. -/
theorem moduleDirectory_normalizeRoot (h : s.Settled w b₀ last gone) (hroot : PlainRoot root) :
    b₀.moduleDirectory w (normalizeRoot .posix root) = b₀.moduleDirectory w root := by
  simp only [Binder.moduleDirectory, h.platform, hroot.moduleDirectory_normalizeRoot]

/-- The directory of a plain root is that of the root that is bound for it. -/
theorem moduleDirectory_requested (h : s.Settled w b₀ last gone) (hroot : PlainRoot root) :
    b₀.moduleDirectory w (normalizeRoot .posix (requested root)) = b₀.moduleDirectory w root := by
  rw [requested, h.moduleDirectory_normalizeRoot hroot.normalizeRoot,
    h.moduleDirectory_normalizeRoot hroot]

/-- The active root of the binder is the one that the session remembers, without one more separator
at its end. -/
theorem activeRoot_eq (h : s.Settled w b₀ last gone) :
    s.binder.activeRoot = s.boundRoot.map (normalizeRoot .posix) := by
  rw [h.remembers.activeRoot, h.remembers.boundRoot]
  cases last with
  | none => rfl
  | some x =>
    have hroot := h.remembers.root x rfl (h.plain x rfl).normalizeRoot.ne_empty
    rwa [h.platform_eq] at hroot

/-- It makes no difference whether the root that the session remembers or the active one of the
binder is taken for the previous root. -/
theorem previous_eq (h : s.Settled w b₀ last gone) :
    (Binder.given s.boundRoot).map (s.binder.moduleDirectory w) =
      (Binder.given s.binder.activeRoot).map (s.binder.moduleDirectory w) := by
  rw [h.activeRoot_eq, h.remembers.boundRoot, h.moduleDirectory_eq]
  cases last with
  | none => rfl
  | some x =>
    have hplain : PlainRoot (requested x.asked) := (h.plain x rfl).normalizeRoot
    rw [Option.map_some, Option.map_some, Binder.given_eq_self (by simpa using hplain.ne_empty),
      Binder.given_eq_self (by simpa using hplain.normalizeRoot.ne_empty), Option.map_some,
      Option.map_some, h.moduleDirectory_normalizeRoot hplain]

/-- The directory in front of the search path is that of the root that the session remembers. -/
theorem front_eq (h : s.Settled w b₀ last gone) (hroot : PlainRoot root)
    (hbound : s.boundRoot = some (requested root)) :
    s.binder.front w.directory = [b₀.moduleDirectory w root] := by
  have hfront : s.binder.front w.directory =
      (s.binder.activeRoot.map (s.binder.moduleDirectory w)).toList := rfl
  rw [hfront, h.activeRoot_eq, hbound, h.moduleDirectory_eq, Option.map_some, Option.map_some,
    h.moduleDirectory_requested hroot, Option.toList_some]

/-- The root that is bound for a plain root. -/
theorem target_eq (h : s.Settled w b₀ last gone) (hroot : PlainRoot root) :
    s.binder.target (some (requested root)) =
      some (normalizeRoot .posix (requested root)) := by
  have hne : requested root ≠ "" := hroot.normalizeRoot.ne_empty
  rw [Binder.target_of_ne_empty hne, h.platform_eq]

/-- The search path after the binding of a plain root. -/
theorem rebound_eq (h : s.Settled w b₀ last gone) (hroot : PlainRoot root) :
    s.binder.rebound w (s.binder.target (some (requested root))) s.boundRoot =
      [b₀.moduleDirectory w root] ++
        SearchPath.ambient b₀.searchPath ([b₀.moduleDirectory w root] ++ gone) := by
  have hfront : ((Binder.given s.boundRoot).map (s.binder.moduleDirectory w)).toList =
      s.binder.front w.directory := by
    rw [h.previous_eq, Binder.given_eq_self h.remembers.rooted]
    rfl
  have hnew : some (b₀.moduleDirectory w root) ≠ some "" := fun he =>
    moduleDirectory_ne_empty w.directory b₀.linter b₀.platform root (Option.some_inj.mp he)
  rw [Binder.rebound, h.target_eq hroot, Option.map_some, h.moduleDirectory_eq,
    h.moduleDirectory_requested hroot, SearchPath.rebind_eq _ _ hnew, ← h.moduleDirectory_eq,
    hfront, Option.toList_some, h.follows.leaves]

/-- **What a search for a context comes to.** It depends on the binder at the beginning and on the
directories that are gone, whether the context is stored or not. -/
theorem search_eq (h : s.Settled w b₀ last gone) (hroot : PlainRoot root) :
    (s.contextFor w root).value.1 =
      b₀.answer w (some (normalizeRoot .posix (requested root)))
        ([b₀.moduleDirectory w root] ++
          SearchPath.ambient b₀.searchPath ([b₀.moduleDirectory w root] ++ gone)) := by
  cases hstored : s.stored? root with
  | some c =>
    obtain ⟨x, rfl, rfl, hx⟩ := h.remembers.last_of_stored hstored
    have hbound : s.boundRoot = some (requested root) := by
      rw [h.remembers.boundRoot, Option.map_some, hx]
    have hanswer := h.answer x rfl
    rw [h.searchPath x rfl, h.front_eq hroot hbound, hx] at hanswer
    rw [contextFor_of_stored hstored]
    exact hanswer.symm
  | none =>
    rw [contextFor_eq_bind hstored, Session.bind_value_fst, Binder.bind_value_fst,
      h.rebound_eq hroot, h.target_eq hroot, h.alike.answer]

theorem fallen (h : s.Settled w b₀ last gone) (fault : BindFault) :
    (s.fallen fault).Settled w b₀ last gone where
  platform := h.platform
  remembers := h.remembers.fallen fault
  plain := h.plain
  alike := by rw [fallen_binder]; exact h.alike
  follows := by rw [fallen_binder]; exact h.follows
  searchPath := by rw [fallen_binder]; exact h.searchPath
  answer := h.answer

/-- A context that the binder returns is the one that it would have returned at the beginning, had
it come to this search path then. -/
theorem answer_of_bound {c : ProjectContext} {b' : Binder} (h : s.Settled w b₀ last gone)
    (hroot : PlainRoot root)
    (hb : s.binder.Bound w (some (requested root)) s.boundRoot c b') :
    b₀.answer w (some (normalizeRoot .posix (requested root))) c.searchPath = .ok c := by
  have hanswer := s.binder.bind_value_fst w (some (requested root)) s.boundRoot
  rw [Binder.bind_eq_ok_iff.mpr hb, ← hb.context_searchPath_eq_rebound, h.target_eq hroot,
    h.alike.answer] at hanswer
  exact hanswer.symm

theorem rebound {c : ProjectContext} {b' : Binder} (h : s.Settled w b₀ last gone)
    (hroot : PlainRoot root)
    (hb : s.binder.Bound w (some (requested root)) s.boundRoot c b') :
    (s.rebound root c b').Settled w b₀ (some ⟨root, c⟩) (gone ++ b'.front w.directory) := by
  have hbind := Binder.bind_eq_ok_iff.mpr hb
  have hserve : s.binder.serve w.directory ⟨some (requested root), w.files, w.environment⟩ =
      (.ok c, b') := by
    rw [Binder.bind_congr_previous h.previous_eq] at hbind
    exact hbind
  refine ⟨h.platform, h.remembers.rebound hb, ?_, ⟨?_, ?_, ?_⟩, h.follows.serve hserve, ?_, ?_⟩
  · rintro _ ⟨⟩
    exact hroot
  · exact hb.linter_eq.trans h.alike.linter
  · exact hb.platform_eq.trans h.alike.platform
  · exact hb.defaultDirectory_eq.trans h.alike.defaultDirectory
  · rintro _ ⟨⟩
    rw [hb.context_searchPath_eq, h.follows.searchPath_of_serve hserve, Session.rebound,
      ← List.append_assoc, SearchPath.ambient_append_gone (List.subset_append_left _ _)]
  · rintro _ ⟨⟩
    exact h.answer_of_bound hroot hb

/-- A search for the context of a plain root takes at most the directory of this root into the
search path. -/
theorem search (h : s.Settled w b₀ last gone) (hroot : PlainRoot root) :
    ∃ last' gone', gone' ⊆ gone ++ [b₀.moduleDirectory w root] ∧
      (s.contextFor w root).value.2.Settled w b₀ last' gone' := by
  rcases contextFor_cases s w root with ⟨c, -, hv⟩ | ⟨e, -, -, hv⟩ | ⟨c, b', -, hb, hv⟩
  · exact ⟨last, gone, List.subset_append_left _ _, by rwa [hv]⟩
  · exact ⟨last, gone, List.subset_append_left _ _, by rw [hv]; exact h.fallen e⟩
  · have hnext := h.rebound hroot hb
    have hfront : b'.front w.directory = [b₀.moduleDirectory w root] := hnext.front_eq hroot rfl
    rw [hfront] at hnext
    exact ⟨_, _, List.Subset.refl _, by rwa [hv]⟩

end Settled

/-- After any calls about plain roots the directories that are gone are those of these roots. -/
theorem settled_inSequence (h : s.Settled w b₀ none []) (behaviours : List Execution.Behaviour)
    {calls : List Call} (hcalls : ∀ call ∈ calls, PlainRoot call.root) :
    ∃ last gone, gone ⊆ calls.map (fun call => b₀.moduleDirectory w call.root) ∧
      (s.inSequence w calls behaviours).session.Settled w b₀ last gone := by
  induction calls using List.reverseRecOn with
  | nil => exact ⟨none, [], List.nil_subset _, h⟩
  | append_singleton calls call ih =>
    obtain ⟨last, gone, hgone, hsettled⟩ := ih fun c hc => hcalls c (List.mem_append_left _ hc)
    obtain ⟨last', gone', hgone', hnext⟩ := hsettled.search (hcalls call (by simp))
    rw [inSequence_snoc, Sequence.next_session, List.map_append]
    refine ⟨last', gone', List.Subset.trans hgone' (List.append_subset.mpr ⟨?_, ?_⟩), hnext⟩
    · exact List.subset_append_of_subset_left _ hgone
    · exact List.subset_append_right _ _

/-- **The context of a project does not depend on the projects served before.** In a world that does
not change, a session receives any calls about plain roots, whether they succeed or fail. No entry
that its search path has at the beginning is the module directory of one of these roots, unless it
is that of the plain root that is asked for in the end. Then a search for the context of this root
comes to what it comes to in a new session: the same context, or the same fault. -/
theorem contextFor_inSequence (w : World) (settings : Settings) (linter : Linter)
    (environment : Option Environment) (defaultDirectory : Option String) (calls : List Call)
    (behaviours : List Execution.Behaviour) (target : String)
    (hcalls : ∀ call ∈ calls, PlainRoot call.root) (htarget : PlainRoot target)
    (hinitial : ∀ call ∈ calls,
      moduleDirectory w.directory linter .posix call.root ≠
          moduleDirectory w.directory linter .posix target →
        moduleDirectory w.directory linter .posix call.root ∉
          SearchPath.split SearchPath.separator
            ((environment.getD w.environment).get? linter.searchVariable)) :
    let s₀ := Session.new settings (.ofEnvironment w linter environment defaultDirectory .posix)
    ((s₀.inSequence w calls behaviours).session.contextFor w target).value.1 =
      (s₀.contextFor w target).value.1 := by
  intro s₀
  have hnew : s₀.Settled w s₀.binder none [] := .new settings w rfl rfl
  obtain ⟨last, gone, hgone, hsettled⟩ := settled_inSequence hnew behaviours hcalls
  rw [hsettled.search_eq htarget, hnew.search_eq htarget]
  -- The two search paths differ at most in entries that are gone, and of those none was there.
  congr 2
  refine SearchPath.ambient_congr_of_mem fun d hd => ?_
  rw [List.append_nil, List.mem_append]
  refine or_iff_left_of_imp fun hmem => ?_
  obtain ⟨call, hcall, rfl⟩ := List.mem_map.mp (hgone hmem)
  rw [List.mem_singleton]
  by_contra hne
  exact hinitial call hcall hne hd

/-- A project is asked for after calls about others, one of which fails. Its own directory is in the
search path from the beginning, which does no harm. -/
theorem contextFor_inSequence_other :
    let w : World := .ofFiles "/cwd" (.set .empty "NODE_PATH" "/lib:/b/node_modules")
      [("/a", .directory), ("/b", .directory)]
    let calls : List Call := [.lint "/a/" "x.js" none, .context "/gone", .version "/a" none]
    (∀ call ∈ calls, PlainRoot call.root) ∧ PlainRoot "/b//" ∧
      (((Session.new {} (.ofEnvironment w {} none none .posix)).inSequence w calls
          []).session.contextFor w "/b//").value.1 =
        ((Session.new {} (.ofEnvironment w {} none none .posix)).contextFor w "/b//").value.1 := by
  intro w calls
  have hcalls : ∀ call ∈ calls, PlainRoot call.root := by decide +kernel
  have htarget : PlainRoot "/b//" := by decide +kernel
  refine ⟨hcalls, htarget, ?_⟩
  exact contextFor_inSequence w {} {} none none calls [] "/b//" hcalls htarget (by decide +kernel)

end Session

end ProjectLint
