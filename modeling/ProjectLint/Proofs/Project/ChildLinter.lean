import ProjectLint.Proofs.Project.Resolution
import ProjectLint.Proofs.Project.Selection

/-!
# The linter as a child opens it

A linter is looked for from the directory of this process and opened by a child that runs in the
directory of its context. An anchored path is the same file for both. Any other path is the same one
only if the two directories agree above the levels that it goes up, and a relative root or a
relative entry of the search path makes such a path.

## Main definitions

* `Found`: a linter that was found as a file, and the texts that its path is put together from.

## Main results

* `Selects.found_or_missing`: the linter that is selected was found, or there is none.
* `Binder.opens_found_iff`: when a child opens the linter that was found.
* `Binder.not_forall_opens_found`: a child does not always open it.
-/

namespace ProjectLint

open ProjectLint.Path (IsAnchored AgreeAbove)

/-- A linter that was found as a file: a regular file of the project, or a program. The texts are
those that its path is put together from. -/
inductive Found (w : World) (linter : Linter) (platform : Platform) (root : Option String) :
    List String → String → Prop
  | own {r name : String} (root_eq : root = some r) (root_ne : r ≠ "")
      (name_mem : name ∈ linter.names platform)
      (isRegular : w.isRegular (candidatePath r linter.binDir name).text = true) :
      Found w linter platform root [r, linter.binDir, name]
        (candidatePath r linter.binDir name).text
  | named (slash : '/' ∈ linter.name.toList) (isProgram : w.isProgram linter.name = true) :
      Found w linter platform root [linter.name] linter.name
  | searched {directory : String} (no_slash : '/' ∉ linter.name.toList)
      (directory_mem : directory ∈ w.searchDirectories)
      (isProgram : w.isProgram (Path.joinText directory linter.name) = true) :
      Found w linter platform root [directory, linter.name]
        (Path.joinText directory linter.name)

variable {w : World} {linter : Linter} {platform : Platform} {root : Option String}
  {path : String}

/-- A linter that was found has the path of its texts. -/
theorem Found.ofText_eq {texts : List String} (h : Found w linter platform root texts path) :
    Path.ofText path = Path.joined texts := by
  cases h with
  | @own r name _ _ _ _ =>
    have hreadable : (candidatePath r linter.binDir name).Readable := by
      rw [← candidatePath_eq]
      exact ((Path.readable_ofText r).append (Path.readable_ofText _)).append
        (Path.readable_ofText name)
    rw [hreadable.ofText_text, ← candidatePath_eq]
    simp [Path.joined, Path.empty_append]
  | named _ _ => simp [Path.joined, Path.empty_append]
  | @searched directory hslash _ _ =>
    rw [Path.ofText_joinText directory hslash]
    simp [Path.joined, Path.empty_append]

/-- Where the root, the entries of the search path and a name that is itself a path are anchored, so
is what was found. -/
theorem Found.exists_isAnchored {texts : List String} (h : Found w linter platform root texts path)
    (hroot : ∀ r ∈ root, IsAnchored r) (hentries : ∀ d ∈ w.searchDirectories, IsAnchored d)
    (hname : '/' ∈ linter.name.toList → IsAnchored linter.name) :
    ∃ text ∈ texts, IsAnchored text := by
  cases h with
  | @own r _ hr _ _ _ => exact ⟨r, by simp, hroot r hr⟩
  | named hslash _ => exact ⟨_, by simp, hname hslash⟩
  | @searched directory _ hmem _ => exact ⟨directory, by simp, hentries directory hmem⟩

theorem exists_found_of_isProgram (hmem : path ∈ w.tried linter.name)
    (hprogram : w.isProgram path = true) : ∃ texts, Found w linter platform root texts path := by
  unfold World.tried at hmem
  split at hmem
  · next hslash =>
    obtain rfl : path = linter.name := List.mem_singleton.mp hmem
    exact ⟨_, .named hslash hprogram⟩
  · next hslash =>
    obtain ⟨directory, hdirectory, rfl⟩ := List.mem_map.mp hmem
    exact ⟨_, .searched hslash hdirectory hprogram⟩

/-- The linter that is selected was found as a file, or is the bare name of one that is at none of
the places where it was looked for. -/
theorem Selects.found_or_missing {log : List Log.Record}
    (h : Selects w linter platform root path log) :
    (∃ texts, Found w linter platform root texts path) ∨
      path = linter.name ∧ ∀ p ∈ w.tried linter.name, w.isProgram p = false := by
  have hinstalls : ∀ {p}, Installs w linter.name p →
      (∃ texts, Found w linter platform root texts p) ∨
        p = linter.name ∧ ∀ p ∈ w.tried linter.name, w.isProgram p = false := by
    intro p hp
    cases hp with
    | hit htried _ hprogram =>
      exact Or.inl (exists_found_of_isProgram (by simp [htried]) hprogram)
    | bare hnone => exact Or.inr ⟨rfl, hnone⟩
  cases h with
  | @own r _ before after hroot hcandidates _ hregular =>
    have hmem : path ∈ candidates r linter platform := by simp [hcandidates]
    rw [candidates_eq] at hmem
    obtain ⟨name, hname, rfl⟩ := List.mem_map.mp hmem
    exact Or.inl ⟨_, .own rfl hroot hname hregular⟩
  | foreign _ _ hi => exact hinstalls hi
  | rootless _ hi => exact hinstalls hi

namespace Binder

/-- **When a child opens the linter that was found.** Let a binding return a context. Its linter was
found as a file, or is the bare name of one that is nowhere. Let it have been found, with a path
that is put together from given texts. From the working directory of the context, which is itself
seen from the directory of this process, this path leads to the same place as from the directory of
this process if and only if one of the texts is anchored, or the root, or the default directory
where there is no root, agrees with the directory of this process above the levels that the texts go
up. In particular it does if the root, the entries of the search path and a name that is itself a
path are anchored. -/
theorem opens_found_iff (b : Binder) (w : World) (new previous : Option String)
    (c : ProjectContext) (h : (b.bind w new previous).value.1 = .ok c)
    (hcwd : IsAnchored w.directory) :
    let here := Path.ofText w.directory
    let there := here.absolute (.ofText c.workingDirectory)
    let opens := there.absolute (.ofText c.linterPath) = here.absolute (.ofText c.linterPath)
    ((∃ texts, Found w b.linter b.platform (b.target new) texts c.linterPath) ∨
      c.linterPath = b.linter.name ∧ ∀ p ∈ w.tried b.linter.name, w.isProgram p = false) ∧
    ∀ texts, Found w b.linter b.platform (b.target new) texts c.linterPath →
      (opens ↔ (∃ text ∈ texts, IsAnchored text) ∨
        AgreeAbove (Path.climb (texts.flatMap fun text => (Path.ofText text).parts))
          (here.absolute (.ofText ((b.target new).getD b.defaultDirectory))) here.collapse) ∧
      ((∀ r ∈ b.target new, IsAnchored r) → (∀ d ∈ w.searchDirectories, IsAnchored d) →
        ('/' ∈ b.linter.name.toList → IsAnchored b.linter.name) → opens) := by
  intro here there opens
  have hbound : b.Bound w new previous c (b.bind w new previous).value.2 :=
    bind_eq_ok_iff.mp (by rw [← h])
  obtain ⟨log, hselects⟩ := exists_selects_of_locateLinter hbound.located
  refine ⟨hselects.found_or_missing, fun texts hfound => ?_⟩
  have hthere : there.anchor ≠ .relative := Path.anchor_absolute_ne hcwd _
  have hanchored : (Path.ofText c.linterPath).anchor ≠ .relative ↔
      ∃ text ∈ texts, IsAnchored text := by
    rw [hfound.ofText_eq, Path.anchor_joined_iff]
  have hopens : opens ↔ (∃ text ∈ texts, IsAnchored text) ∨
      AgreeAbove (Path.climb (texts.flatMap fun text => (Path.ofText text).parts)) there
        here.collapse := by
    change there.absolute (.ofText c.linterPath) = here.absolute (.ofText c.linterPath) ↔ _
    rw [Path.absolute_eq_absolute_iff hthere hcwd, hanchored, Path.collapse_absolute hcwd]
    by_cases hany : ∃ text ∈ texts, IsAnchored text
    · simp [hany]
    · have hnone : ∀ text ∈ texts, ¬IsAnchored text := by simpa using hany
      rw [hfound.ofText_eq, Path.parts_joined hnone]
  have hdirectory : there = here.absolute (.ofText ((b.target new).getD b.defaultDirectory)) :=
    congrArg (fun d => here.absolute (.ofText d)) hbound.context_workingDirectory_eq
  exact ⟨hdirectory ▸ hopens, fun hroot hentries hname =>
    hopens.mpr (Or.inl (hfound.exists_isAnchored hroot hentries hname))⟩

/-- A relative entry of the search path leads to the same program from a directory beside that of
this process, for it goes up one level. -/
theorem opens_found_beside :
    let w : World := .ofFiles "/a/p" (.set .empty "PATH" "../tools")
      [("/a/q", .directory), ("/a/tools/eslint", .file [] true)]
    let b := ofEnvironment w {} none none .posix
    let c : ProjectContext :=
      { root := some "/a/q", linterPath := "../tools/eslint",
        searchPath := ["/a/q/node_modules"], workingDirectory := "/a/q" }
    let here := Path.ofText w.directory
    (b.bind w (some "/a/q") none).value.1 = .ok c ∧
      (here.absolute (.ofText "/a/q")).absolute (.ofText "../tools/eslint") =
        here.absolute (.ofText "../tools/eslint") := by
  intro w b c here
  have hbind : (b.bind w (some "/a/q") none).value.1 = .ok c := by
    decide +kernel
  obtain ⟨-, hopens⟩ :=
    opens_found_iff b w (some "/a/q") none c hbind (by decide +kernel)
  have hfound : Found w b.linter b.platform (b.target (some "/a/q")) ["../tools", "eslint"]
      (Path.joinText "../tools" "eslint") :=
    .searched (by decide) (by decide +kernel) (by decide +kernel)
  refine ⟨hbind, (hopens _ hfound).1.mpr (Or.inr ?_)⟩
  decide +kernel

/-- **A child does not always open the linter that was found.** A program that was found through a
relative entry of the search path is looked for inside the project. -/
theorem not_forall_opens_found :
    ¬∀ (b : Binder) (w : World) (new previous : Option String) (c : ProjectContext)
      (texts : List String), (b.bind w new previous).value.1 = .ok c → IsAnchored w.directory →
      Found w b.linter b.platform (b.target new) texts c.linterPath →
      ((Path.ofText w.directory).absolute (.ofText c.workingDirectory)).absolute
          (.ofText c.linterPath) =
        (Path.ofText w.directory).absolute (.ofText c.linterPath) := by
  intro h
  let w : World := .ofFiles "/cwd" (.set .empty "PATH" "bin")
    [("/q", .directory), ("/cwd/bin/eslint", .file [] true)]
  let c : ProjectContext :=
    { root := some "/q", linterPath := "bin/eslint", searchPath := ["/q/node_modules"],
      workingDirectory := "/q" }
  have hfound : Found w {} .posix (some "/q") ["bin", "eslint"] (Path.joinText "bin" "eslint") :=
    .searched (by decide) (by decide +kernel) (by decide +kernel)
  have hopens := h (ofEnvironment w {} none none .posix) w (some "/q") none c ["bin", "eslint"]
    (by decide +kernel) (by decide +kernel) hfound
  revert hopens
  decide +kernel

end Binder

end ProjectLint
