import ProjectLint.Proofs.Project.Locate

/-!
# Which linter is selected

The selection of a linter is described without the search for it: which paths come before the one
that is taken, and what is wrong with each of them. Every root, or none, has such a selection, and
the search comes to this one, with one record for each candidate that it passes over and one more
when no candidate is left.

## Main definitions

* `candidatePath`: the place of one name inside the directory of a project's programs.
* `World.tried`: the paths at which an installed program is looked for.
* `World.namedDirectories`: the directories that a search path names.
* `Installs`: the installed linter, or the bare name in its place.
* `Selects`: the linter of a project, or of none, and the records about the way to it.

## Main results

* `exists_selects`: there is always a selection.
* `locateLinter_eq_iff`: the search for a linter comes to what is selected.
* `not_forall_bare_without_path`: a linter is also found where there is no search path.
-/

namespace ProjectLint

open Log

/-! ### Candidates -/

/-- The place of a name inside the directory of programs, seen from a root. The last of the three
texts that is anchored replaces what precedes it. -/
def candidatePath (root directory name : String) : Path :=
  let r := Path.ofText root
  let d := Path.ofText directory
  let n := Path.ofText name
  if n.anchor ≠ .relative then n
  else if d.anchor ≠ .relative then ⟨d.anchor, d.parts ++ n.parts⟩
  else ⟨r.anchor, r.parts ++ d.parts ++ n.parts⟩

/-- The names under which a linter is looked for in a project. -/
def Linter.names (linter : Linter) : Platform → List String
  | .posix => [linter.name]
  | .windows => [linter.name, linter.name ++ ".cmd"]

theorem candidatePath_eq (root directory name : String) :
    Path.ofText root ++ Path.ofText directory ++ Path.ofText name =
      candidatePath root directory name := by
  unfold candidatePath
  dsimp only
  by_cases hn : (Path.ofText name).anchor = .relative
  · rw [Path.append_of_relative _ hn, if_neg (not_not_intro hn)]
    by_cases hd : (Path.ofText directory).anchor = .relative
    · rw [Path.append_of_relative _ hd, if_neg (not_not_intro hd)]
    · rw [Path.append_anchored _ hd, if_pos hd]
  · rw [Path.append_anchored _ hn, if_pos hn]

theorem candidates_eq (root : String) (linter : Linter) (platform : Platform) :
    candidates root linter platform =
      (linter.names platform).map fun name => (candidatePath root linter.binDir name).text := by
  cases platform <;> simp [candidates, Linter.names, candidatePath_eq]

/-! ### Installed programs -/

namespace World

variable {w : World} {name path : String}

/-- The paths at which a program is looked for, in order. A name with a slash is itself the only
one. -/
def tried (w : World) (name : String) : List String :=
  if '/' ∈ name.toList then [name]
  else w.searchDirectories.map fun directory => Path.joinText directory name

/-- The directories that a search path names, the usual ones where there is no search path. -/
def namedDirectories : Option String → List String
  | none => ["/bin", "/usr/bin"]
  | some "" => []
  | some path => (path.toList.splitOn ':').map String.ofList

theorem searchDirectories_eq (w : World) :
    w.searchDirectories = namedDirectories (w.environment.get? "PATH") := by
  rw [searchDirectories]
  cases w.environment.get? "PATH" with
  | none => rfl
  | some path =>
    by_cases hpath : path = ""
    · subst hpath
      rfl
    · simp [namedDirectories, hpath]

theorem tried_eq (w : World) (name : String) :
    w.tried name = if '/' ∈ name.toList then [name]
      else (namedDirectories (w.environment.get? "PATH")).map fun d => Path.joinText d name := by
  rw [tried, searchDirectories_eq]

theorem search_eq_find? (w : World) (name : String) :
    w.search name = (w.tried name).find? w.isProgram := by
  unfold search tried
  split
  · cases h : w.isProgram name <;> simp [h]
  · rfl

/-- The empty text leads to no program. -/
theorem ne_empty_of_isProgram (h : w.isProgram path = true) : path ≠ "" := by
  rintro rfl
  simp [isProgram, status, place] at h

end World

/-- The installed linter of a name: the first path at which there is a program, or the bare name
where there is none. -/
inductive Installs (w : World) (name : String) : String → Prop
  | hit {path : String} {before after : List String}
      (tried_eq : w.tried name = before ++ path :: after)
      (before_not : ∀ p ∈ before, w.isProgram p = false)
      (isProgram : w.isProgram path = true) : Installs w name path
  | bare (none_is : ∀ p ∈ w.tried name, w.isProgram p = false) : Installs w name name

theorem Installs.installedLinter_eq {w : World} {linter : Linter} {path : String}
    (h : Installs w linter.name path) : installedLinter w linter = path := by
  unfold installedLinter
  rw [w.search_eq_find?]
  cases h with
  | @hit _ before after htried hbefore hprogram =>
    have hfind : (w.tried linter.name).find? w.isProgram = some path := by
      rw [List.find?_eq_some_iff_append]
      exact ⟨hprogram, before, after, htried, fun p hp => by simp [hbefore p hp]⟩
    have hne : path.isEmpty = false := by
      simpa using World.ne_empty_of_isProgram hprogram
    simp [hfind, hne]
  | bare hnone =>
    have hfind : (w.tried linter.name).find? w.isProgram = none := by
      rw [List.find?_eq_none]
      exact fun p hp => by simp [hnone p hp]
    simp only [hfind]

theorem exists_installs (w : World) (name : String) : ∃ path, Installs w name path := by
  cases hfind : (w.tried name).find? w.isProgram with
  | none =>
    rw [List.find?_eq_none] at hfind
    exact ⟨name, .bare fun p hp => by simpa using hfind p hp⟩
  | some path =>
    obtain ⟨hprogram, before, after, htried, hbefore⟩ := List.find?_eq_some_iff_append.mp hfind
    exact ⟨path, .hit htried (fun p hp => by simpa using hbefore p hp) hprogram⟩

/-! ### Selection -/

/-- The record about a candidate that is passed over. -/
def rejection (w : World) (path : String) : Record where
  level := .debug
  source := .binder
  message := match w.status path with
    | .error e => s!"Project linter {path} not usable: {e.message}"
    | .ok _ => s!"{path} is not a regular file"
  caught := none

/-- The record about a project that has no linter. -/
def withoutLinter (root : String) (linter : Linter) : Record where
  level := .debug
  source := .binder
  message := s!"No project linter under {root}, using default {linter.name}"
  caught := none

/-- The linter of a project, or of none, and the records about the way to it. -/
inductive Selects (w : World) (linter : Linter) (platform : Platform) :
    Option String → String → List Record → Prop
  | own {root path : String} {before after : List String} (root_ne : root ≠ "")
      (candidates_eq : candidates root linter platform = before ++ path :: after)
      (before_not : ∀ p ∈ before, w.isRegular p = false)
      (isRegular : w.isRegular path = true) :
      Selects w linter platform (some root) path (before.map (rejection w))
  | foreign {root path : String} (root_ne : root ≠ "")
      (none_is : ∀ p ∈ candidates root linter platform, w.isRegular p = false)
      (installs : Installs w linter.name path) :
      Selects w linter platform (some root) path
        ((candidates root linter platform).map (rejection w) ++ [withoutLinter root linter])
  | rootless {root : Option String} {path : String} (root_eq : ∀ r ∈ root, r = "")
      (installs : Installs w linter.name path) : Selects w linter platform root path []

variable {w : World} {linter : Linter} {platform : Platform} {root : Option String}
  {path : String} {log : List Record}

/-- **There is always a selection.** -/
theorem exists_selects (w : World) (linter : Linter) (platform : Platform)
    (root : Option String) : ∃ path log, Selects w linter platform root path log := by
  obtain ⟨installed, hinstalls⟩ := exists_installs w linter.name
  cases root with
  | none => exact ⟨installed, [], .rootless (by simp) hinstalls⟩
  | some r =>
    by_cases hr : r = ""
    · exact ⟨installed, [], .rootless (by simp [hr]) hinstalls⟩
    · cases hfind : (candidates r linter platform).find? w.isRegular with
      | none =>
        rw [List.find?_eq_none] at hfind
        exact ⟨installed, _, .foreign hr (fun p hp => by simpa using hfind p hp) hinstalls⟩
      | some path =>
        obtain ⟨hregular, before, after, hcandidates, hbefore⟩ :=
          List.find?_eq_some_iff_append.mp hfind
        exact ⟨path, _, .own hr hcandidates (fun p hp => by simpa using hbefore p hp) hregular⟩

/-- Candidates without a NUL character that are no regular files are passed over, with a record for
each. -/
theorem firstRegular_append {before : List String} (rest : List String)
    (hnul : ∀ p ∈ before, '\x00' ∉ p.toList) (hnot : ∀ p ∈ before, w.isRegular p = false) :
    firstRegular w (before ++ rest) =
      ⟨(firstRegular w rest).value, before.map (rejection w) ++ (firstRegular w rest).log⟩ := by
  induction before with
  | nil => rfl
  | cons p before ih =>
    obtain ⟨hp, hbefore⟩ := List.forall_mem_cons.mp hnul
    obtain ⟨hpnot, hbeforenot⟩ := List.forall_mem_cons.mp hnot
    have hrest := ih hbefore hbeforenot
    have hasked := w.status_ne_nulInPath hp
    cases hs : w.status p with
    | ok node =>
      have hnode : node.isRegular = false := by
        simpa [World.isRegular, hs] using hpnot
      ext1 <;> simp [firstRegular, hs, hnode, hrest, rejection]
    | error fault =>
      cases fault with
      | nulInPath => exact absurd hs hasked
      | refused e => ext1 <;> simp [firstRegular, hs, hrest, rejection, FileFault.message]

theorem firstRegular_cons_of_isRegular {paths : List String} (h : w.isRegular path = true) :
    firstRegular w (path :: paths) = pure (.ok (some path)) := by
  unfold World.isRegular at h
  split at h
  · next node hs => simp [firstRegular, hs, h]
  · cases h

/-- What is selected is what the search comes to. -/
theorem Selects.locateLinter_eq (h : Selects w linter platform root path log)
    (hnul : ∀ r ∈ root, r ≠ "" → ∀ p ∈ candidates r linter platform, '\x00' ∉ p.toList) :
    locateLinter w root linter platform = ⟨.ok path, log⟩ := by
  cases h with
  | @own r _ before after hroot hcandidates hbefore hregular =>
    have hempty : r.isEmpty = false := by simpa using hroot
    have hfree := hnul r rfl hroot
    rw [hcandidates] at hfree
    have hsearch := firstRegular_append (path :: after)
      (fun p hp => hfree p (List.mem_append_left _ hp)) hbefore
    rw [firstRegular_cons_of_isRegular hregular] at hsearch
    ext1 <;> simp [locateLinter, hempty, hcandidates, hsearch]
  | @foreign r _ hroot hnone hinstalls =>
    have hempty : r.isEmpty = false := by simpa using hroot
    have hsearch := firstRegular_append [] (hnul r rfl hroot) hnone
    rw [List.append_nil] at hsearch
    ext1 <;>
      simp [locateLinter, hempty, hsearch, firstRegular, hinstalls.installedLinter_eq,
        withoutLinter]
  | rootless hroot hinstalls =>
    cases root with
    | none => rw [locateLinter, hinstalls.installedLinter_eq]; rfl
    | some r =>
      obtain rfl : r = "" := hroot r rfl
      rw [← hinstalls.installedLinter_eq]
      rfl

theorem isRegular_eq_false_of_not_stopsAt (h : stopsAt w path = false) :
    w.isRegular path = false :=
  (Bool.or_eq_false_iff.mp h).2

/-- A search that ends with a linter has selected it, even if a candidate that it did not come to
contains a NUL character. -/
theorem exists_selects_of_locateLinter
    (h : (locateLinter w root linter platform).value = .ok path) :
    ∃ log, Selects w linter platform root path log := by
  obtain ⟨installed, hinstalls⟩ := exists_installs w linter.name
  have hinstalled := hinstalls.installedLinter_eq
  cases root with
  | none =>
    obtain rfl : installed = path := by simpa [locateLinter, hinstalled] using h
    exact ⟨[], .rootless (by simp) hinstalls⟩
  | some r =>
    by_cases hr : r = ""
    · obtain rfl : installed = path := by simpa [locateLinter, hinstalled, hr] using h
      exact ⟨[], .rootless (by simp [hr]) hinstalls⟩
    · have hempty : r.isEmpty = false := by simpa using hr
      simp only [locateLinter, hempty, Bool.false_eq_true, if_false, Logged.value_bind,
        firstRegular_value] at h
      cases hfind : (candidates r linter platform).find? (stopsAt w) with
      | none =>
        obtain rfl : installed = path := by simpa [hfind, hinstalled] using h
        rw [List.find?_eq_none] at hfind
        refine ⟨_, .foreign hr (fun p hp => ?_) hinstalls⟩
        exact isRegular_eq_false_of_not_stopsAt (by simpa using hfind p hp)
      | some p =>
        obtain ⟨hstops, before, after, hcandidates, hbefore⟩ :=
          List.find?_eq_some_iff_append.mp hfind
        by_cases hnul : '\x00' ∈ p.toList
        · simp [hfind, hnul] at h
        · obtain rfl : p = path := by simpa [hfind, hnul] using h
          have hregular : w.isRegular p = true := by simpa [stopsAt, hnul] using hstops
          refine ⟨_, .own hr hcandidates (fun q hq => ?_) hregular⟩
          exact isRegular_eq_false_of_not_stopsAt (by simpa using hbefore q hq)

/-- **The search for a linter comes to what is selected.** No candidate of the root may contain a
NUL character. Each candidate is the place of a name inside the directory of programs, where an
anchored name or directory replaces what precedes it. A name with a slash is itself the only path
at which an installed program is looked for. The search ends without an error, with the first
candidate that is a regular file, else with the first program on the search path, or in the usual
directories where there is no search path, else with the bare name; its records are those about the
candidates that it passed over, in order, and at the end the one about a project without a
linter. -/
theorem locateLinter_eq_iff (w : World) (linter : Linter) (platform : Platform)
    (root : Option String)
    (hnul : ∀ r ∈ root, r ≠ "" → ∀ p ∈ candidates r linter platform, '\x00' ∉ p.toList) :
    (∀ r, candidates r linter platform =
      (linter.names platform).map fun name => (candidatePath r linter.binDir name).text) ∧
    (w.tried linter.name = if '/' ∈ linter.name.toList then [linter.name]
      else (World.namedDirectories (w.environment.get? "PATH")).map fun d =>
        Path.joinText d linter.name) ∧
    (∃ path log, locateLinter w root linter platform = ⟨.ok path, log⟩) ∧
    ∀ path log, locateLinter w root linter platform = ⟨.ok path, log⟩ ↔
      Selects w linter platform root path log := by
  obtain ⟨path₀, log₀, hselects⟩ := exists_selects w linter platform root
  have hsearch := hselects.locateLinter_eq hnul
  refine ⟨fun r => candidates_eq r linter platform, w.tried_eq linter.name,
    ⟨path₀, log₀, hsearch⟩, fun path log => ⟨fun h => ?_, fun h => h.locateLinter_eq hnul⟩⟩
  obtain ⟨hpath, rfl⟩ : path₀ = path ∧ log₀ = log := by
    simpa using hsearch.symm.trans h
  exact hpath ▸ hselects

/-- Of two candidates one is a directory and the other must not be looked at; on the search path a
file that is no program and a directory come before the program, in an entry that is relative. -/
theorem locateLinter_relative_entry :
    let w : World := .ofFiles "/cwd" (.set .empty "PATH" ":/x:bin:/y")
      [("/p/node_modules/.bin/eslint", .directory), ("/p/node_modules/.bin/eslint.cmd", .denied),
        ("/cwd/eslint", .file [] false), ("/x/eslint", .directory),
        ("/cwd/bin/eslint", .file [] true), ("/y/eslint", .file [] true)]
    locateLinter w (some "/p") {} .windows = ⟨.ok "bin/eslint",
      [⟨.debug, .binder, "/p/node_modules/.bin/eslint is not a regular file", none⟩,
        ⟨.debug, .binder, "Project linter /p/node_modules/.bin/eslint.cmd not usable: " ++
          "[Errno 13] Permission denied: '/p/node_modules/.bin/eslint.cmd'", none⟩,
        ⟨.debug, .binder, "No project linter under /p, using default eslint", none⟩]⟩ := by
  intro w
  have htried : w.tried "eslint" = ["eslint", "/x/eslint"] ++ "bin/eslint" :: ["/y/eslint"] := by
    decide +kernel
  have hinstalls : Installs w "eslint" "bin/eslint" :=
    .hit htried (by decide +kernel) (by decide +kernel)
  have hselects : Selects w {} .windows (some "/p") "bin/eslint" _ :=
    .foreign (by decide) (by decide +kernel) hinstalls
  obtain ⟨-, -, -, hsearch⟩ := locateLinter_eq_iff w {} .windows (some "/p") (by
    intro r hr _
    obtain rfl : "/p" = r := Option.some_inj.mp hr
    decide +kernel)
  rw [(hsearch _ _).mpr hselects]
  exact congrArg (Logged.mk _) (by decide +kernel)

/-- **A linter is found also without a search path.** The usual directories of the system are
searched then, and the bare name is not what is taken. -/
theorem not_forall_bare_without_path :
    ¬∀ (w : World) (linter : Linter) (platform : Platform), w.environment.get? "PATH" = none →
      (locateLinter w none linter platform).value = .ok linter.name := by
  intro h
  let w : World := .ofFiles "/p" .empty [("/usr/bin/eslint", .file [] true)]
  have hbare := h w {} .posix rfl
  have hfound : (locateLinter w none {} .posix).value = .ok "/usr/bin/eslint" := by decide +kernel
  rw [hfound] at hbare
  exact absurd (Except.ok.inj hbare) (by decide)

end ProjectLint
