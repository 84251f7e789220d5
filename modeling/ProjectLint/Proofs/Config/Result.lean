import ProjectLint.Proofs.Config.Load

/-!
# What loading comes to

Loading records what it does, and it comes to settings or to a fault. What it comes to is put
together from what its stages come to, and each stage looks at the files in its own way: whether a
path leads to a regular file, whether it leads anywhere, and what can be read from it.

## Main definitions

* `Config.usable`: the entries of a file that can be a layer.
* `Config.ofLayers`: the settings of given layers.

## Main results

* `value_fileLayer`, `value_globalLayer`, `value_customLayer`, `value_projectLayer`: what the stages
  come to.
* `value_load`: what loading comes to.
-/

namespace ProjectLint.Config

variable {w w' : World} {path file : String}

/-! ### A file -/

/-- The entries of a file that can be a layer: all mistakes in them can be told. -/
def usable (w : World) (path : String) : Except LoadFault Entries := do
  let es ← expanded w path
  let _ ← (warnings path (.map es)).mapError LoadFault.unchecked
  return es

/-- What is read from a path depends on what the path leads to and on the variables. -/
theorem expanded_congr (henvironment : w'.environment = w.environment)
    (hread : w'.read path = w.read path) : expanded w' path = expanded w path := by
  rw [expanded, expanded, value_readEntries, value_readEntries, fileEntries, fileEntries,
    henvironment, hread]

theorem usable_congr (henvironment : w'.environment = w.environment)
    (hread : w'.read path = w.read path) : usable w' path = usable w path := by
  rw [usable, usable, expanded_congr henvironment hread]

theorem usable_eq_error_of_expanded {e : LoadFault} (h : expanded w path = .error e) :
    usable w path = .error e := by
  rw [usable, h]
  rfl

theorem value_fileLayer (w : World) (path kind loaded : String) :
    (fileLayer w path kind loaded).run.value =
      (usable w path).map fun es => ⟨es, kind ++ ":" ++ path⟩ := by
  rw [fileLayer, value_run_bind, ← expanded, usable]
  cases expanded w path with
  | error e => rfl
  | ok es =>
    refine (value_run_bind _ _).trans ?_
    rw [ExceptT.run_mk, Logged.value_map, value_check]
    simp only [bind, Except.bind]
    cases warnings path (.map es) with
    | error e => rfl
    | ok ws => rfl

/-! ### The layers -/

theorem globalFile_eq (hfile : globalPath w = .ok file) :
    globalFile w = ((w.isFile file).mapError LoadFault.file).map fun found =>
      if found then some file else none := by
  rw [globalFile, hfile]
  simp only [bind, Except.bind, firstFile]
  cases w.isFile file with
  | error e => rfl
  | ok found => cases found <;> rfl

/-- Without a directory of the user nothing is loaded. -/
theorem value_globalLayer_of_homeless {e : LoadFault} (h : globalPath w = .error e) :
    (globalLayer w).run.value = .error e := by
  rw [globalLayer, value_run_bind, Load.value_liftM, globalFile, h]
  rfl

/-- Without a global file there is no layer of it. -/
theorem value_globalLayer_of_absent (hfile : globalPath w = .ok file)
    (h : w.isFile file = .ok false) : (globalLayer w).run.value = .ok none := by
  rw [globalLayer, value_run_bind, Load.value_liftM, globalFile_eq hfile, h]
  rfl

/-- A global file that is no layer is passed over, or ends the loading. -/
theorem value_globalLayer_of_error {e : LoadFault} (hfile : globalPath w = .ok file)
    (h : w.isFile file = .ok true) (he : usable w file = .error e) :
    (globalLayer w).run.value = if isPassedOver e then .ok none else .error e := by
  have hlayer : (fileLayer w file "global" "Loaded global config from").run.value = .error e := by
    rw [value_fileLayer, he]
    rfl
  rw [globalLayer, value_run_bind, Load.value_liftM, globalFile_eq hfile, h]
  simp only [Except.map, Except.mapError, if_true, bind, Except.bind, ExceptT.run_mk, hlayer]
  split <;> rfl

/-- The layer of the file that is asked for. -/
def customLayer (w : World) (path : String) : Except LoadFault (Option Layer) := do
  if ← (w.contains path).mapError LoadFault.file then
    return some ⟨← (usable w path).mapError (.within path), "custom:" ++ path⟩
  else throw (.notFound path)

/-- The layer of the first of several files. -/
def firstLayer (w : World) (paths : List String) : Except LoadFault (Option Layer) := do
  match ← (firstFile w paths).mapError LoadFault.file with
  | none => return none
  | some path => return some ⟨← (usable w path).mapError (.within path), "project:" ++ path⟩

theorem customLayer_congr (hcontains : w'.contains path = w.contains path)
    (husable : w.contains path = .ok true → usable w' path = usable w path) :
    customLayer w' path = customLayer w path := by
  rw [customLayer, customLayer, hcontains]
  cases h : w.contains path with
  | error e => simp only [Except.mapError, bind, Except.bind]
  | ok found =>
    cases found with
    | false => simp only [Except.mapError, bind, Except.bind, Bool.false_eq_true, if_false]
    | true => rw [husable h]

theorem firstFile_congr {paths : List String}
    (h : ∀ path ∈ paths, w'.isFile path = w.isFile path) :
    firstFile w' paths = firstFile w paths := by
  induction paths with
  | nil => rfl
  | cons path paths ih =>
    obtain ⟨hpath, hpaths⟩ := List.forall_mem_cons.mp h
    rw [firstFile, firstFile, hpath, ih hpaths]

theorem firstLayer_congr {paths : List String}
    (hfile : ∀ path ∈ paths, w'.isFile path = w.isFile path)
    (husable : ∀ path ∈ paths, w.isFile path = .ok true → usable w' path = usable w path) :
    firstLayer w' paths = firstLayer w paths := by
  rw [firstLayer, firstLayer, firstFile_congr hfile]
  cases hfirst : firstFile w paths with
  | error e => simp only [Except.mapError, bind, Except.bind]
  | ok found =>
    cases found with
    | none => simp only [Except.mapError, bind, Except.bind]
    | some path =>
      obtain ⟨before, after, rfl, hregular, -⟩ := firstFile_eq_some hfirst
      simp only [Except.mapError, bind, Except.bind, husable path (by simp) hregular]

theorem value_requiredLayer (w : World) (path kind : String) :
    (requiredLayer w path kind).run.value =
      ((usable w path).mapError (.within path)).map fun es => ⟨es, kind ++ ":" ++ path⟩ := by
  rw [requiredLayer, ExceptT.run_mk]
  simp only [Logged.value_bind, Logged.value_pure, value_fileLayer]
  cases usable w path <;> rfl

theorem value_projectLayer_custom (w : World) (root : Option Path) (path : Path) :
    (projectLayer w root (some path)).run.value = customLayer w path.text := by
  rw [projectLayer, value_run_bind, Load.value_liftM, customLayer]
  refine bind_congr fun found => ?_
  cases found with
  | false => rfl
  | true =>
    simp only [if_true]
    rw [value_run_bind, value_requiredLayer]
    cases usable w path.text <;> rfl

theorem value_projectLayer_project (w : World) (root : Path) :
    (projectLayer w (some root) none).run.value =
      firstLayer w (projectNames.map fun name => (root ++ Path.ofText name).text) := by
  rw [projectLayer, value_run_bind, Load.value_liftM, firstLayer, projectFile]
  refine bind_congr fun found => ?_
  cases found with
  | none => rfl
  | some path =>
    dsimp only
    rw [value_run_bind, value_requiredLayer]
    cases usable w path <;> rfl

theorem value_overrideLayer (overrides : Entries) :
    (overrideLayer overrides).run.value =
      .ok (if overrides = [] then none else some ⟨overrides, "cli"⟩) := by
  rw [overrideLayer]
  split <;> rfl

/-! ### All layers -/

/-- The settings of given layers. -/
def ofLayers (ls : List Layer) : Except LoadFault Loaded := do
  let loaded ← (Loaded.ofEntries (mergeLayers ls)).mapError LoadFault.settings
  return { loaded with sources := ls.map (·.source) }

theorem value_layers (w : World) (root custom : Option Path) (overrides : Entries) :
    (layers w root custom overrides).run.value = (do
      let global ← (globalLayer w).run.value
      let project ← (projectLayer w root custom).run.value
      return global.toList ++ project.toList ++
        if overrides = [] then [] else [⟨overrides, "cli"⟩]) := by
  rw [layers, value_run_bind]
  refine bind_congr fun global => ?_
  rw [value_run_bind]
  refine bind_congr fun project => ?_
  rw [value_run_bind, value_overrideLayer]
  split <;> rfl

/-- What loading comes to. -/
theorem value_load (w : World) (root custom : Option Path) (overrides : Entries) :
    (load w root custom overrides).run.value =
      (layers w root custom overrides).run.value >>= ofLayers := by
  rw [load, value_run_bind]
  refine bind_congr fun ls => ?_
  rw [value_run_bind, Load.value_liftM, ofLayers]
  exact bind_congr fun loaded => value_run_bind _ _

end ProjectLint.Config
