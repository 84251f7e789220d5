import Mathlib.Data.List.Chain
import ProjectLint.Proofs.Session.Run

/-!
# What a project leaves behind

When a session changes from one project to another, the module directory of the earlier one ought to
disappear from the search path. A session takes out the directory of the root that it was last asked
for. A binder, however, put in the directory of the root that it bound, which is the one asked for
with another separator dropped, or the one that was active before if the root asked for was empty.
Where the two differ, the earlier directory stays.

## Main definitions

* `Served.Apart`: the later of two contexts has nothing of the earlier project.
* `Served.Cleared`: between two contexts the directory of the earlier project is taken out.

## Main results

* `served_apart_iff`: no context has anything of any earlier project if and only if at each change
  of projects the directory of the earlier one is taken out.
* `not_forall_apart`: an empty root makes a project leave its directory behind.
-/

namespace ProjectLint.Session

namespace Served

/-! ### Directories of projects -/

/-- The module directory of the project that a context is for. -/
def directory? (m : String → String) (x : Served) : Option String := x.context.root.map m

/-- The directory that the next change takes out of the search path. -/
def removed? (m : String → String) (x : Served) : Option String :=
  (Binder.given (some (requested x.asked))).map m

/-- The later of two contexts has nothing of the earlier project, unless the projects share their
module directory. -/
def Apart (m : String → String) (x y : Served) : Prop :=
  ∀ d ∈ x.directory? m, y.directory? m ≠ some d → d ∉ y.context.searchPath

instance (m : String → String) (x y : Served) : Decidable (x.Apart m y) :=
  inferInstanceAs (Decidable (∀ d ∈ x.directory? m, _))

/-- A root whose directory the next change takes out: it is not empty, and dropping another
separator makes no difference to its directory. -/
def Removable (m : String → String) (platform : Platform) (asked : String) : Prop :=
  requested asked ≠ "" ∧ m (normalizeRoot platform (requested asked)) = m (requested asked)

/-- Between two contexts the directory of the earlier project is taken out, unless the projects
share it. -/
def Cleared (m : String → String) (platform : Platform) (x y : Served) : Prop :=
  ∀ d ∈ x.directory? m, y.directory? m ≠ some d → Removable m platform x.asked

/-- What holds of every context: its search path has no entry twice and begins with the directory of
its own project, whose root is the one asked for unless that is empty. -/
structure Proper (m : String → String) (platform : Platform) (x : Served) : Prop where
  nodup : x.context.searchPath.Nodup
  head : ∀ d ∈ x.directory? m, x.context.searchPath.head? = some d
  root : requested x.asked ≠ "" →
    x.context.root = some (normalizeRoot platform (requested x.asked))

/-- How a context comes from the one before it: they are the same, or there was a change. -/
def Follows (m : String → String) (x y : Served) : Prop :=
  y.context = x.context ∨
    y.context.searchPath = (y.directory? m).toList ++
      SearchPath.ambient x.context.searchPath ((y.directory? m).toList ++ (x.removed? m).toList)

variable {m : String → String} {platform : Platform} {x y z : Served} {d : String}

/-! ### Two contexts -/

/-- What is taken out is the directory that was put in exactly where the root is removable. -/
theorem Proper.removed?_eq_iff (h : x.Proper m platform) (hd : x.directory? m = some d) :
    x.removed? m = some d ↔ Removable m platform x.asked := by
  by_cases hne : requested x.asked = ""
  · simp [removed?, Removable, hne, Binder.given]
  · have hdir : m (normalizeRoot platform (requested x.asked)) = d := by
      rw [directory?, h.root hne, Option.map_some] at hd
      exact Option.some_inj.mp hd
    rw [removed?, Binder.given_eq_self (by simpa using hne), Option.map_some, Option.some_inj,
      Removable, hdir]
    exact ⟨fun he => ⟨hne, he.symm⟩, fun he => he.2.symm⟩

/-- Contexts with different directories are different. -/
theorem context_ne (hx : x.directory? m = some d) (hy : y.directory? m ≠ some d) :
    y.context ≠ x.context := by
  intro he
  rw [directory?, he] at hy
  exact hy hx

/-- A directory that is not the new one stays in the search path unless it is taken out. -/
theorem Follows.mem_iff (h : x.Follows m y) (hne : y.context ≠ x.context)
    (hd : y.directory? m ≠ some d) :
    d ∈ y.context.searchPath ↔ d ∈ x.context.searchPath ∧ x.removed? m ≠ some d := by
  rw [h.resolve_left hne]
  simp [SearchPath.mem_ambient, hd]

/-- The earlier directory is gone from the next context exactly where it was taken out. -/
theorem apart_iff_cleared (hx : x.Proper m platform) (h : x.Follows m y) :
    x.Apart m y ↔ x.Cleared m platform y := by
  constructor
  · intro hapart d hd hne
    by_contra hkept
    have hremoved : x.removed? m ≠ some d := fun he => hkept ((hx.removed?_eq_iff hd).mp he)
    have hmem : d ∈ x.context.searchPath := List.mem_of_mem_head? (hx.head d hd)
    exact hapart d hd hne ((h.mem_iff (context_ne hd hne) hne).mpr ⟨hmem, hremoved⟩)
  · intro hcleared d hd hne hmem
    have hremoved := (hx.removed?_eq_iff hd).mpr (hcleared d hd hne)
    exact ((h.mem_iff (context_ne hd hne) hne).mp hmem).2 hremoved

/-- What is not in a context is not in the next one either, if the directory of the project in
between is taken out. -/
theorem Apart.trans (hxy : x.Apart m y) (hy : y.Proper m platform) (h : y.Follows m z)
    (hc : y.Cleared m platform z) : x.Apart m z := by
  intro d hd hne hmem
  by_cases hsame : z.context = y.context
  · have hdir : z.directory? m = y.directory? m := by rw [directory?, directory?, hsame]
    rw [hdir] at hne
    rw [hsame] at hmem
    exact hxy d hd hne hmem
  · obtain ⟨hbefore, hkept⟩ := (h.mem_iff hsame hne).mp hmem
    -- The directory was in the context in between, so the projects share it.
    have hshared : y.directory? m = some d := by
      by_contra hother
      exact hxy d hd hother hbefore
    exact hkept ((hy.removed?_eq_iff hshared).mpr (hc d hshared hne))

/-! ### Many contexts -/

/-- Contexts that come one from another have nothing of each other's projects exactly where the
directory of the earlier project is taken out at each change. -/
theorem pairwise_apart_iff {xs : List Served} (hproper : ∀ x ∈ xs, x.Proper m platform)
    (hfollows : xs.IsChain (Follows m)) :
    xs.Pairwise (Apart m) ↔ xs.IsChain (Cleared m platform) := by
  induction xs using List.reverseRecOn with
  | nil => simp
  | append_singleton xs z ih =>
    obtain ⟨hchain, -, hnext⟩ := List.isChain_append.mp hfollows
    have hbefore : ∀ x ∈ xs, x.Proper m platform := fun x hx => hproper x (by simp [hx])
    rw [List.pairwise_append, List.isChain_append, ← ih hbefore hchain]
    refine and_congr_right fun hpairwise => ?_
    simp only [List.pairwise_singleton, List.isChain_singleton, List.mem_singleton, forall_eq,
      List.head?_cons, Option.mem_some_iff, forall_eq', true_and]
    constructor
    · intro hapart y hy
      have hmem := List.mem_of_getLast? hy
      exact (apart_iff_cleared (hbefore y hmem) (hnext y hy z rfl)).mp (hapart y hmem)
    · intro hcleared x hx
      obtain ⟨ys, y, rfl⟩ := (List.eq_nil_or_concat' xs).resolve_left (List.ne_nil_of_mem hx)
      have hlast : y ∈ (ys ++ [y]).getLast? := by simp
      have hy := hbefore y (by simp)
      have hyz := hnext y hlast z rfl
      rcases List.mem_append.mp hx with hx | hx
      · have hxy : x.Apart m y := (List.pairwise_append.mp hpairwise).2.2 x hx y (by simp)
        exact hxy.trans hy hyz (hcleared y hlast)
      · obtain rfl := List.mem_singleton.mp hx
        exact (apart_iff_cleared hy hyz).mpr (hcleared x hlast)

end Served

/-! ### Runs -/

section Runs

variable {directory : String} {s s₀ : Session} {last : Option Served} {e : Event} {x y : Served}

theorem follows_of_served? (h : s.Remembers last) (hx : x ∈ last)
    (hy : s.served? directory e = some y) :
    x.Follows (moduleDirectory directory s.binder.linter s.binder.platform) y := by
  rcases next_cases directory s e with
    ⟨c, hs, hserved, -⟩ | ⟨fault, -, hserved, -⟩ | ⟨c, b', -, hb, hserved, -⟩
  · obtain rfl : _ = y := Option.some_inj.mp (hserved.symm.trans hy)
    obtain ⟨x', hlast, hc, -⟩ := h.last_of_stored hs
    obtain rfl : x' = x := Option.some_inj.mp (hlast.symm.trans hx)
    exact Or.inl hc.symm
  · rw [hserved] at hy
    exact absurd hy (by simp)
  · obtain rfl : _ = y := Option.some_inj.mp (hserved.symm.trans hy)
    obtain rfl : last = some x := hx
    have hbound : s.boundRoot = some (requested x.asked) := h.boundRoot
    refine Or.inr ?_
    simp only [Served.directory?, Served.removed?]
    rw [hb.context_searchPath_eq, hb.context_root_eq, h.searchPath x rfl, ← hbound]
    exact hb.searchPath_eq

theorem proper_of_served? (h : s.Remembers last)
    (hlast : ∀ x ∈ last,
      x.Proper (moduleDirectory directory s.binder.linter s.binder.platform) s.binder.platform)
    (hy : s.served? directory e = some y) :
    y.Proper (moduleDirectory directory s.binder.linter s.binder.platform) s.binder.platform := by
  have hroot : requested y.asked ≠ "" →
      y.context.root = some (normalizeRoot s.binder.platform (requested y.asked)) := by
    have hnext : (s.next directory e).Remembers ((s.served? directory e).or last) := h.next e
    rw [← (next_binder directory s e).2]
    exact hnext.root y (by rw [hy]; rfl)
  rcases next_cases directory s e with
    ⟨c, hs, hserved, -⟩ | ⟨fault, -, hserved, -⟩ | ⟨c, b', -, hb, hserved, -⟩
  · obtain rfl : _ = y := Option.some_inj.mp (hserved.symm.trans hy)
    obtain ⟨x, rfl, rfl, -⟩ := h.last_of_stored hs
    have hx := hlast x rfl
    exact ⟨hx.nodup, hx.head, hroot⟩
  · rw [hserved] at hy
    exact absurd hy (by simp)
  · obtain rfl : _ = y := Option.some_inj.mp (hserved.symm.trans hy)
    refine ⟨?_, ?_, hroot⟩
    · rw [hb.context_searchPath_eq]
      exact hb.nodup_searchPath
    · intro d hd
      have hpath := hb.searchPath_eq
      have hdir : b'.activeRoot.map (s.binder.moduleDirectory (e.world directory)) = some d := by
        rw [← hb.context_root_eq]
        exact hd
      rw [hdir] at hpath
      rw [hb.context_searchPath_eq, hpath]
      rfl

/-- The contexts of a run come one from another. -/
theorem served_follows (directory : String) (h : s₀.Remembers none) (es : List Event) :
    let m := moduleDirectory directory s₀.binder.linter s₀.binder.platform
    (∀ x ∈ s₀.served directory es, x.Proper m s₀.binder.platform) ∧
      (s₀.served directory es).IsChain (Served.Follows m) := by
  intro m
  induction es using List.reverseRecOn with
  | nil => simp [served]
  | append_singleton es e ih =>
    obtain ⟨hproper, hchain⟩ := ih
    have hremembers := remembers_after directory h es
    obtain ⟨hlinter, hplatform⟩ := after_binder directory s₀ es
    have hlast : ∀ x ∈ (s₀.served directory es).getLast?, x.Proper m s₀.binder.platform :=
      fun x hx => hproper x (List.mem_of_getLast? hx)
    rw [served_snoc]
    cases hy : (s₀.after directory es).served? directory e with
    | none =>
      rw [Option.toList_none, List.append_nil]
      exact ⟨hproper, hchain⟩
    | some y =>
      have hyproper := proper_of_served? hremembers (by rwa [hlinter, hplatform]) hy
      rw [hlinter, hplatform] at hyproper
      refine ⟨fun x hx => ?_, List.isChain_append.mpr ⟨hchain, .singleton y, fun x hx z hz => ?_⟩⟩
      · rcases List.mem_append.mp hx with hx | hx
        · exact hproper x hx
        · obtain rfl : x = y := by simpa using hx
          exact hyproper
      · obtain rfl : y = z := by simpa using hz
        have := follows_of_served? hremembers hx hy
        rwa [hlinter, hplatform] at this

/-- In a run, no context has anything of an earlier project exactly where the directory of the
earlier project is taken out at each change. -/
theorem pairwise_apart_served_iff (directory : String) (h : s₀.Remembers none) (es : List Event) :
    let m := moduleDirectory directory s₀.binder.linter s₀.binder.platform
    (s₀.served directory es).Pairwise (Served.Apart m) ↔
      (s₀.served directory es).IsChain (Served.Cleared m s₀.binder.platform) := by
  obtain ⟨hproper, hfollows⟩ := served_follows directory h es
  exact Served.pairwise_apart_iff hproper hfollows

end Runs

/-- **A project leaves nothing behind exactly where its own directory is taken out.** A session is
asked for any projects, while everything but its working directory changes as it likes. The search
path of each context has no entry twice and begins with the directory of the context's own root. No
context has the directory of any earlier project in its search path if and only if at each change of
projects, and so of directories, the earlier call asked for a removable root. -/
theorem served_apart_iff (w : World) (settings : Settings) (linter : Linter)
    (environment : Option Environment) (defaultDirectory : Option String) (platform : Platform)
    (es : List Event) :
    let m := moduleDirectory w.directory linter platform
    let s₀ := Session.new settings
      (.ofEnvironment w linter environment defaultDirectory platform)
    let xs := s₀.served w.directory es
    (∀ x ∈ xs, x.context.searchPath.Nodup ∧
      ∀ root, x.context.root = some root → x.context.searchPath.head? = some (m root)) ∧
      (xs.Pairwise (Served.Apart m) ↔ xs.IsChain (Served.Cleared m platform)) := by
  intro m s₀ xs
  have hnew : s₀.Remembers none := Remembers.new settings rfl
  refine ⟨fun x hx => ?_, pairwise_apart_served_iff w.directory hnew es⟩
  have hproper := (served_follows w.directory hnew es).1 x hx
  refine ⟨hproper.nodup, fun root hroot => hproper.head (m root) ?_⟩
  rw [Served.directory?, hroot]
  rfl

/-- Calls for the contexts of projects, one after another, while nothing around them changes. -/
def visits (w : World) (roots : List String) : List Event :=
  roots.map fun root => ⟨.context root, w.files, w.environment, []⟩

/-- **A project can leave its directory behind.** It is asked for, then the empty root, and then
another project: the last context still has the directory of the first one. -/
theorem not_forall_apart :
    ¬∀ (w : World) (settings : Settings) (linter : Linter) (environment : Option Environment)
      (defaultDirectory : Option String) (platform : Platform) (es : List Event),
      ((Session.new settings
        (.ofEnvironment w linter environment defaultDirectory platform)).served
          w.directory es).Pairwise
        (Served.Apart (moduleDirectory w.directory linter platform)) := by
  intro h
  let w : World := .ofFiles "/cwd" .empty [("/a", .directory), ("/b", .directory)]
  have hleak := h w {} {} none none .posix (visits w ["/a", "", "/b"])
  revert hleak
  decide +kernel

/-! ### Plain roots -/

theorem removable_of_plain {root : String} (h : PlainRoot root) (workingDirectory : String)
    (linter : Linter) :
    Served.Removable (moduleDirectory workingDirectory linter .posix) .posix root :=
  ⟨h.normalizeRoot.ne_empty, h.normalizeRoot.moduleDirectory_normalizeRoot workingDirectory linter⟩

theorem asked_of_served? {directory : String} {s : Session} {e : Event} {x : Served}
    (h : s.served? directory e = some x) : x.asked = e.call.root := by
  rw [served?] at h
  split at h
  · rw [← Option.some_inj.mp h]
  · simp at h

theorem exists_event_of_mem_served {directory : String} {s : Session} {es : List Event}
    {x : Served} (h : x ∈ s.served directory es) : ∃ e ∈ es, e.call.root = x.asked := by
  induction es generalizing s with
  | nil => simp [served] at h
  | cons e es ih =>
    rcases List.mem_append.mp h with hfirst | hrest
    · exact ⟨e, List.mem_cons_self, (asked_of_served? (Option.mem_toList.mp hfirst)).symm⟩
    · obtain ⟨e', he', hroot⟩ := ih hrest
      exact ⟨e', List.mem_cons_of_mem e he', hroot⟩

/-- Projects with plain roots leave nothing behind. -/
theorem served_apart_of_plain (w : World) (settings : Settings) (linter : Linter)
    (environment : Option Environment) (defaultDirectory : Option String) (es : List Event)
    (h : ∀ e ∈ es, PlainRoot e.call.root) :
    let s₀ := Session.new settings (.ofEnvironment w linter environment defaultDirectory .posix)
    (s₀.served w.directory es).Pairwise
      (Served.Apart (moduleDirectory w.directory linter .posix)) := by
  intro s₀
  have hnew : s₀.Remembers none := Remembers.new settings rfl
  refine (pairwise_apart_served_iff w.directory hnew es).mpr ?_
  refine List.Pairwise.isChain (List.pairwise_of_forall_mem_list fun x hx y _ d _ _ => ?_)
  obtain ⟨e, he, hroot⟩ := exists_event_of_mem_served hx
  rw [← hroot]
  exact removable_of_plain (h e he) w.directory linter

end ProjectLint.Session
