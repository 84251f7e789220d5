import Mathlib.Data.List.Induction
import ProjectLint.Proofs.Project.Bind
import ProjectLint.Proofs.Project.JoinedPath

/-!
# The search path as a child sees it

A child process finds the search path of its context in a variable, where the entries are joined by
colons. What it finds there is the search path of the context only if no entry contains a colon.
The entries that a binder takes from its own variable contain none, but a directory of a project
may.

## Main definitions

* `Binder.Demand`: a binding that is asked for, with any previous root.
* `Binder.afterAll`, `Binder.boundDirectories`: the binder after several demands, and the module
  directories of the projects that they bind.
* `Binder.Tidy`: which entries a search path has.

## Main results

* `child_reads_searchPath_iff`: when a child sees the search path of its context.
* `not_forall_child_reads_searchPath`: a child does not always see it.
-/

namespace ProjectLint.Binder

open SearchPath (IsEntry)

/-- A binding that is asked for, with any previous root, and the world that it meets. -/
structure Demand where
  world : World
  root : Option String
  previous : Option String

/-- What a demand comes to. -/
def meet (b : Binder) (d : Demand) : Except BindFault ProjectContext × Binder :=
  (b.bind d.world d.root d.previous).value

/-- The binder after several demands. -/
def afterAll (b : Binder) (ds : List Demand) : Binder := ds.foldl (fun b d => (b.meet d).2) b

/-- The module directory of the project that a demand binds, if it binds one. -/
def directory? (b : Binder) (d : Demand) : Option String :=
  ((b.meet d).1.toOption.bind (·.root)).map (b.moduleDirectory d.world)

/-- The module directories of the projects that several demands bind. -/
def boundDirectories (b : Binder) : List Demand → List String
  | [] => []
  | d :: ds => (b.directory? d).toList ++ boundDirectories (b.meet d).2 ds

/-- Which entries a search path has, where `directories` are the module directories of the projects
bound so far: none is empty, and only a module directory can contain a colon. -/
structure Tidy (b : Binder) (directories : List String) : Prop where
  ne_empty : ∀ e ∈ b.searchPath, e ≠ ""
  mem_directories : ∀ e ∈ b.searchPath, ':' ∈ e.toList → e ∈ directories

variable {b b' : Binder} {d : Demand} {ds : List Demand} {c : ProjectContext}
  {directories : List String}

/-! ### One demand -/

theorem bound_of_meet (h : b.meet d = (.ok c, b')) : b.Bound d.world d.root d.previous c b' :=
  bind_eq_ok_iff.mp h

theorem directory?_of_bound (h : b.meet d = (.ok c, b')) :
    b.directory? d = b'.activeRoot.map (b.moduleDirectory d.world) := by
  rw [directory?, h]
  exact congrArg _ (bound_of_meet h).context_root_eq

/-- A binder takes its search path from a variable. -/
theorem tidy_ofEnvironment (w : World) (linter : Linter) (environment : Option Environment)
    (defaultDirectory : Option String) (platform : Platform) :
    (ofEnvironment w linter environment defaultDirectory platform).Tidy [] := by
  have hentries : ∀ e ∈ (ofEnvironment w linter environment defaultDirectory platform).searchPath,
      IsEntry ':' e := by
    intro e he
    simp only [ofEnvironment, SearchPath.separator_eq] at he
    exact SearchPath.isEntry_of_mem_split he
  exact ⟨fun e he => (hentries e he).1, fun e he hcolon => absurd hcolon (hentries e he).2⟩

namespace Tidy

theorem append (h : b.Tidy directories) (more : List String) : b.Tidy (directories ++ more) where
  ne_empty := h.ne_empty
  mem_directories e he hcolon := List.mem_append_left more (h.mem_directories e he hcolon)

/-- A demand adds no entry but the module directory of the project that it binds. -/
theorem meet (h : b.Tidy directories) (d : Demand) :
    (b.meet d).2.Tidy (directories ++ (b.directory? d).toList) := by
  rcases hmeet : b.meet d with ⟨e | c, b'⟩
  · have hsame : b' = b := by
      have hfails := bind_error (congrArg Prod.fst hmeet)
      rwa [← Binder.meet, hmeet] at hfails
    rw [hsame]
    exact h.append _
  · have hentries : ∀ e ∈ b'.searchPath,
        e ∈ (b.directory? d).toList ∨ e ∈ b.searchPath := by
      intro e he
      rw [(bound_of_meet hmeet).searchPath_eq, ← directory?_of_bound hmeet] at he
      exact (List.mem_append.mp he).imp_right fun ha => (SearchPath.mem_ambient.mp ha).1
    refine ⟨fun e he => ?_, fun e he hcolon => ?_⟩
    · rcases hentries e he with hnew | hold
      · obtain ⟨r, -, rfl⟩ := Option.map_eq_some_iff.mp (Option.mem_toList.mp hnew)
        exact moduleDirectory_ne_empty _ _ _ r
      · exact h.ne_empty e hold
    · rcases hentries e he with hnew | hold
      · exact List.mem_append_right _ hnew
      · exact List.mem_append_left _ (h.mem_directories e hold hcolon)

end Tidy

/-! ### Many demands -/

theorem boundDirectories_snoc (ds : List Demand) (d : Demand) :
    b.boundDirectories (ds ++ [d]) =
      b.boundDirectories ds ++ ((b.afterAll ds).directory? d).toList := by
  induction ds generalizing b with
  | nil => simp [boundDirectories, afterAll]
  | cons first ds ih =>
    rw [List.cons_append, boundDirectories, ih, boundDirectories, List.append_assoc]
    rfl

theorem afterAll_snoc (ds : List Demand) (d : Demand) :
    b.afterAll (ds ++ [d]) = ((b.afterAll ds).meet d).2 := by
  rw [afterAll, List.foldl_append]
  rfl

/-- Whatever is asked for, only module directories of bound projects join the search path. -/
theorem tidy_afterAll (h : b.Tidy []) (ds : List Demand) :
    (b.afterAll ds).Tidy (b.boundDirectories ds) := by
  induction ds using List.reverseRecOn with
  | nil => exact h
  | append_singleton ds d ih =>
    rw [afterAll_snoc, boundDirectories_snoc]
    exact ih.meet d

/-! ### What a child sees -/

/-- The entries that a child finds are those of the context exactly if each of them can be an
entry. -/
theorem split_environment_iff (c : ProjectContext) (base : Environment) :
    SearchPath.split SearchPath.separator ((c.environment base).get? c.searchVariable) =
      c.searchPath ↔ ∀ e ∈ c.searchPath, IsEntry ':' e := by
  rw [c.get?_environment_self]
  by_cases h : c.searchPath = []
  · simp [h]
  · rw [if_neg h, SearchPath.separator_eq]
    exact SearchPath.split_join_eq_iff

/-- **When a child sees the search path of its context.** A binder takes its entries from a variable
and is then asked for any bindings, in any worlds. Let the last of them return a context. In the
environment that the context makes of any other one, the entries of its variable are the search path
of the context if and only if no module directory of a project bound so far contains a colon while
it is on this search path. The variable is absent exactly if the search path is empty, and every
other variable has the value that it has in the other environment. -/
theorem child_reads_searchPath_iff (w : World) (linter : Linter) (environment : Option Environment)
    (defaultDirectory : Option String) (platform : Platform) (ds : List Demand) (d : Demand)
    (c : ProjectContext)
    (h : (((ofEnvironment w linter environment defaultDirectory platform).afterAll ds).meet d).1 =
      .ok c) (base : Environment) :
    let b₀ := ofEnvironment w linter environment defaultDirectory platform
    let child := c.environment base
    (SearchPath.split SearchPath.separator (child.get? c.searchVariable) = c.searchPath ↔
      ∀ directory ∈ b₀.boundDirectories (ds ++ [d]),
        directory ∈ c.searchPath → ':' ∉ directory.toList) ∧
    (child.get? c.searchVariable = none ↔ c.searchPath = []) ∧
    ∀ name, name ≠ c.searchVariable → child.get? name = base.get? name := by
  intro b₀ child
  have hmeet : (b₀.afterAll ds).meet d = (.ok c, ((b₀.afterAll ds).meet d).2) := by
    rw [← h]
  have htidy := tidy_afterAll
    (tidy_ofEnvironment w linter environment defaultDirectory platform) (ds ++ [d])
  rw [afterAll_snoc] at htidy
  have hpath : c.searchPath = ((b₀.afterAll ds).meet d).2.searchPath :=
    (bound_of_meet hmeet).context_searchPath_eq
  refine ⟨(split_environment_iff c base).trans ⟨fun hentries directory _ hmem => ?_,
    fun hplain e he => ?_⟩, ?_, fun name hname => c.get?_environment_of_ne base hname⟩
  · exact (hentries directory hmem).2
  · rw [hpath] at he
    refine ⟨htidy.ne_empty e he, fun hcolon => ?_⟩
    exact hplain e (htidy.mem_directories e he hcolon) (hpath ▸ he) hcolon
  · rw [c.get?_environment_self]
    split
    · next hnone => exact iff_of_true rfl hnone
    · next hsome => exact iff_of_false (Option.some_ne_none _) hsome

/-- A directory with a colon is no longer seen once another project is bound in its place. -/
theorem child_reads_searchPath_after_colon :
    let w : World := .ofFiles "/cwd" (.set .empty "NODE_PATH" "/lib::")
      [("/a:b", .directory), ("/p", .directory)]
    let b₀ := ofEnvironment w {} none none .posix
    let d : Demand := ⟨w, some "/p", some "/a:b"⟩
    let c : ProjectContext :=
      { root := some "/p", linterPath := "eslint", searchPath := ["/p/node_modules", "/lib"],
        workingDirectory := "/p" }
    ((b₀.afterAll [⟨w, some "/a:b", none⟩]).meet d).1 = .ok c ∧ ∀ base : Environment,
      SearchPath.split SearchPath.separator ((c.environment base).get? "NODE_PATH") =
        ["/p/node_modules", "/lib"] := by
  intro w b₀ d c
  have hmeet : ((b₀.afterAll [⟨w, some "/a:b", none⟩]).meet d).1 = .ok c := by
    decide +kernel
  refine ⟨hmeet, fun base => ?_⟩
  obtain ⟨hreads, -⟩ := child_reads_searchPath_iff w {} none none .posix _ d c hmeet base
  refine hreads.mpr fun directory _ hmem => ?_
  have hplain : ∀ e ∈ c.searchPath, ':' ∉ e.toList := by
    decide +kernel
  exact hplain directory hmem

/-- **A child does not always see the search path of its context.** A project may be a directory
whose name contains a colon. -/
theorem not_forall_child_reads_searchPath :
    ¬∀ (w : World) (linter : Linter) (environment : Option Environment)
      (defaultDirectory : Option String) (platform : Platform) (ds : List Demand) (d : Demand)
      (c : ProjectContext) (base : Environment),
      (((ofEnvironment w linter environment defaultDirectory platform).afterAll ds).meet d).1 =
        .ok c →
      SearchPath.split SearchPath.separator ((c.environment base).get? c.searchVariable) =
        c.searchPath := by
  intro h
  let w : World := .ofFiles "/cwd" .empty [("/a:b", .directory)]
  let c : ProjectContext :=
    { root := some "/a:b", linterPath := "eslint", searchPath := ["/a:b/node_modules"],
      workingDirectory := "/a:b" }
  have hreads := h w {} none none .posix [] ⟨w, some "/a:b", none⟩ c .empty (by decide +kernel)
  revert hreads
  decide +kernel

end ProjectLint.Binder
