import ProjectLint.Project.Binder
import ProjectLint.Proofs.Project.Root
import ProjectLint.Proofs.Project.SearchPath

/-!
# What a binding comes to

A binding ends in one of three ways: the root is refused, the linter cannot be looked for, or the
project is bound. Each of them is described once, and what a binding does to a binder is read off
from there.

## Main definitions

* `Binder.Bound`: what holds of a project that was bound, and of the binder after it.
* `Binder.Rooted`: a binder whose active root, if there is one, is a text.
* `Binder.answer`: what a binder answers, said of the search path that comes out.

## Main results

* `bind_cases`: the three ways.
* `bind_eq_ok_iff`: when a project is bound.
* `Bound.searchPath_eq`: the search path after a binding.
* `bind_value_fst`: the answer of a binding.
-/

namespace ProjectLint.Binder

variable {b b' : Binder} {w : World} {new previous : Option String} {c : ProjectContext}

/-! ### Roots that are given -/

theorem given_eq_some_iff {s : Option String} {r : String} :
    given s = some r ↔ s = some r ∧ r ≠ "" := by
  simp [given, Option.filter_eq_some_iff]

theorem given_eq_self {s : Option String} (h : s ≠ some "") : given s = s := by
  cases s with
  | none => rfl
  | some r => exact given_eq_some_iff.mpr ⟨rfl, by simpa using h⟩

/-- A binder whose active root, if there is one, is a text. -/
def Rooted (b : Binder) : Prop := b.activeRoot ≠ some ""

theorem target_ne_empty (h : b.Rooted) (new : Option String) : b.target new ≠ some "" := by
  intro he
  obtain ⟨r, hr, hempty⟩ := Option.map_eq_some_iff.mp he
  obtain rfl := normalizeRoot_eq_empty_iff.mp hempty
  rcases Option.or_eq_some_iff.mp hr with hnew | ⟨-, hactive⟩
  · exact (given_eq_some_iff.mp hnew).2 rfl
  · exact h hactive

theorem target_of_ne_empty {r : String} (h : r ≠ "") (b : Binder) :
    b.target (some r) = some (normalizeRoot b.platform r) := by
  rw [target, given_eq_self (by simpa using h)]
  rfl

/-! ### The three ways -/

/-- What holds of a project that was bound, and of the binder after it. -/
structure Bound (b : Binder) (w : World) (new previous : Option String) (c : ProjectContext)
    (b' : Binder) : Prop where
  directory : ∀ r ∈ b.target new, w.isDirectory r = true
  located : (locateLinter w (b.target new) b.linter b.platform).value = .ok c.linterPath
  context : c = b.context (b.target new) c.linterPath (b.rebound w (b.target new) previous)
  binder : b' = { b with
    searchPath := b.rebound w (b.target new) previous, activeRoot := b.target new }

theorem filter_isDirectory_eq_none_iff {root : Option String} :
    (root.filter fun r => !w.isDirectory r) = none ↔ ∀ r ∈ root, w.isDirectory r = true := by
  simp [Option.filter_eq_none_iff]

theorem bind_of_not_directory {r : String} (hr : b.target new = some r)
    (hd : w.isDirectory r = false) :
    (b.bind w new previous).value = (.error (.unusable r "not an existing directory"), b) := by
  have hfilter : ((b.target new).filter fun r => !w.isDirectory r) = some r := by
    simp [hr, Option.filter, hd]
  simp only [bind, hfilter, Logged.value_pure]

theorem bind_of_fault {e : FileFault} (hd : ∀ r ∈ b.target new, w.isDirectory r = true)
    (hl : (locateLinter w (b.target new) b.linter b.platform).value = .error e) :
    (b.bind w new previous).value = (.error (.file e), b) := by
  simp [bind, filter_isDirectory_eq_none_iff.mpr hd, hl]

theorem bind_of_located {linterPath : String} (hd : ∀ r ∈ b.target new, w.isDirectory r = true)
    (hl : (locateLinter w (b.target new) b.linter b.platform).value = .ok linterPath) :
    (b.bind w new previous).value =
      (.ok (b.context (b.target new) linterPath (b.rebound w (b.target new) previous)),
        { b with
          searchPath := b.rebound w (b.target new) previous, activeRoot := b.target new }) := by
  simp [bind, filter_isDirectory_eq_none_iff.mpr hd, hl]

theorem bind_cases (b : Binder) (w : World) (new previous : Option String) :
    (∃ r, b.target new = some r ∧ w.isDirectory r = false ∧
      (b.bind w new previous).value = (.error (.unusable r "not an existing directory"), b)) ∨
    (∃ e, (∀ r ∈ b.target new, w.isDirectory r = true) ∧
      (locateLinter w (b.target new) b.linter b.platform).value = .error e ∧
      (b.bind w new previous).value = (.error (.file e), b)) ∨
    (∃ c b', (b.bind w new previous).value = (.ok c, b') ∧ b.Bound w new previous c b') := by
  by_cases hd : ∀ r ∈ b.target new, w.isDirectory r = true
  · cases hl : (locateLinter w (b.target new) b.linter b.platform).value with
    | error e => exact Or.inr (Or.inl ⟨e, hd, rfl, bind_of_fault hd hl⟩)
    | ok linterPath =>
      exact Or.inr (Or.inr ⟨_, _, bind_of_located hd hl, ⟨hd, hl, rfl, rfl⟩⟩)
  · obtain ⟨r, hr, hd⟩ : ∃ r, b.target new = some r ∧ w.isDirectory r = false := by
      simpa using hd
    exact Or.inl ⟨r, hr, hd, bind_of_not_directory hr hd⟩

/-- **A project is bound exactly when its root is a directory and its linter can be looked for.** -/
theorem bind_eq_ok_iff :
    (b.bind w new previous).value = (.ok c, b') ↔ b.Bound w new previous c b' := by
  constructor
  · intro h
    rcases bind_cases b w new previous with ⟨r, -, -, hv⟩ | ⟨e, -, -, hv⟩ | ⟨c₁, b₁, hv, hb⟩
    · simp [hv] at h
    · simp [hv] at h
    · obtain ⟨rfl, rfl⟩ : c₁ = c ∧ b₁ = b' := by simpa [hv] using h
      exact hb
  · intro h
    rw [bind_of_located h.directory h.located, ← h.context, ← h.binder]

/-! ### The binder after a binding -/

namespace Bound

theorem linter_eq (h : b.Bound w new previous c b') : b'.linter = b.linter := by
  rw [h.binder]

theorem platform_eq (h : b.Bound w new previous c b') : b'.platform = b.platform := by
  rw [h.binder]

theorem defaultDirectory_eq (h : b.Bound w new previous c b') :
    b'.defaultDirectory = b.defaultDirectory := by
  rw [h.binder]

theorem activeRoot_eq (h : b.Bound w new previous c b') : b'.activeRoot = b.target new := by
  rw [h.binder]

/-- The context has the root that is active from now on. -/
theorem context_root_eq (h : b.Bound w new previous c b') : c.root = b'.activeRoot := by
  have hroot : c.root = b.target new := congrArg ProjectContext.root h.context
  rw [hroot, h.activeRoot_eq]

/-- The context is worked on in its root, or in the default directory where there is none. -/
theorem context_workingDirectory_eq (h : b.Bound w new previous c b') :
    c.workingDirectory = (b.target new).getD b.defaultDirectory :=
  congrArg ProjectContext.workingDirectory h.context

theorem context_searchPath_eq_rebound (h : b.Bound w new previous c b') :
    c.searchPath = b.rebound w (b.target new) previous :=
  congrArg ProjectContext.searchPath h.context

/-- The context has the search path of the moment. -/
theorem context_searchPath_eq (h : b.Bound w new previous c b') :
    c.searchPath = b'.searchPath := by
  rw [h.context_searchPath_eq_rebound, h.binder]

theorem rooted (h : b.Bound w new previous c b') (hb : b.Rooted) : b'.Rooted := by
  rw [Rooted, h.activeRoot_eq]
  exact target_ne_empty hb new

theorem nodup_searchPath (h : b.Bound w new previous c b') : b'.searchPath.Nodup := by
  rw [h.binder]
  exact SearchPath.nodup_rebind _ _ _

/-- The search path after a binding: the directory of the project, and what the removal of the
previous one leaves of the entries. -/
theorem searchPath_eq (h : b.Bound w new previous c b') :
    b'.searchPath =
      (b'.activeRoot.map (b.moduleDirectory w)).toList ++
        SearchPath.ambient b.searchPath ((b'.activeRoot.map (b.moduleDirectory w)).toList ++
          ((given previous).map (b.moduleDirectory w)).toList) := by
  rw [h.activeRoot_eq, h.binder]
  refine SearchPath.rebind_eq b.searchPath _ fun he => ?_
  obtain ⟨r, -, hr⟩ := Option.map_eq_some_iff.mp he
  exact moduleDirectory_ne_empty _ _ _ r hr

end Bound

/-! ### What a binding answers -/

/-- What a binder answers for a root, where the search path comes out as given. -/
def answer (b : Binder) (w : World) (root : Option String) (searchPath : List String) :
    Except BindFault ProjectContext :=
  match root.filter fun r => !w.isDirectory r with
  | some r => .error (.unusable r "not an existing directory")
  | none =>
    match (locateLinter w root b.linter b.platform).value with
    | .error e => .error (.file e)
    | .ok linterPath => .ok (b.context root linterPath searchPath)

/-- The search path before a binding matters only for the one that comes out. -/
theorem bind_value_fst (b : Binder) (w : World) (new previous : Option String) :
    (b.bind w new previous).value.1 =
      b.answer w (b.target new) (b.rebound w (b.target new) previous) := by
  rcases bind_cases b w new previous with ⟨r, hr, hd, hv⟩ | ⟨e, hd, hl, hv⟩ | ⟨c, b', hv, hb⟩
  · rw [hv, answer, hr]
    simp [Option.filter, hd]
  · rw [hv, answer, filter_isDirectory_eq_none_iff.mpr hd]
    simp only [hl]
  · rw [hv, answer, filter_isDirectory_eq_none_iff.mpr hb.directory]
    simp only [hb.located]
    rw [← hb.context]

/-- Binders for the same linter on the same platform that run it in the same place. -/
structure Alike (b b₁ : Binder) : Prop where
  linter : b.linter = b₁.linter
  platform : b.platform = b₁.platform
  defaultDirectory : b.defaultDirectory = b₁.defaultDirectory

theorem Alike.answer (h : b.Alike b₁) (w : World) (root : Option String)
    (searchPath : List String) : b.answer w root searchPath = b₁.answer w root searchPath := by
  simp only [Binder.answer, context, h.linter, h.platform, h.defaultDirectory]

/-- The previous root matters only for the directory that is taken out. -/
theorem bind_congr_previous {p q : Option String}
    (h : (given p).map (b.moduleDirectory w) = (given q).map (b.moduleDirectory w))
    (new : Option String) : b.bind w new p = b.bind w new q := by
  simp only [bind, rebound, h]

end ProjectLint.Binder
