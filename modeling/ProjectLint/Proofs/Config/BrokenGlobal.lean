import ProjectLint.Proofs.Config.Fault
import ProjectLint.Proofs.World.Unlink

/-!
# A global file that is broken

A global file that is no layer ought to be as good as none. Where it cannot be opened, is no
document, or is another document than a mapping, it is: loading comes to what it comes to without
the file. But bytes that are no text, scalars that have no value, variables that cannot be looked up
and keys that cannot be told are faults that loading does not expect of a file. They end the
loading, whatever else there is.

## Main results

* `value_projectLayer_unlink`: the layer of the project without the global file.
* `load_of_broken_global`: what loading comes to with a global file that is no layer.
* `not_forall_unlink_global`: a broken global file is not always as good as none.
-/

namespace ProjectLint.Config

variable {w : World} {root custom : Option Path} {overrides : Entries} {file : String}
  {e : LoadFault}

/-- A regular file is refused only because it must not be read. -/
theorem read_of_isFile {path : String} {f : FileFault} (h : w.isFile path = .ok true)
    (hf : w.read path = .error f) : f = .refused ⟨.accessDenied, path⟩ := by
  obtain ⟨-, node, -, -, hstatus, hregular⟩ := World.exists_place_of_isFile h
  rw [World.read, hstatus] at hf
  cases node <;> simp_all [Node.isRegular]

/-- Exactly the faults that are foreseen are passed over. -/
theorem isPassedOver_iff {path : String} (h : w.isFile path = .ok true)
    (he : Spoiled w path e) : isPassedOver e = true ↔ ¬Unforeseen e := by
  cases he with
  | unopened hf =>
    obtain rfl := read_of_isFile h hf
    exact ⟨fun _ hunforeseen => (nomatch hunforeseen), fun _ => rfl⟩
  | undecodable _ hf => simp [isPassedOver, Unforeseen.undecodable]
  | unencodable => simp [isPassedOver, Unforeseen.unencodable]
  | notMapping => exact ⟨fun _ hunforeseen => (nomatch hunforeseen), fun _ => rfl⟩
  | unchecked _ hf => simp [isPassedOver, Unforeseen.unchecked]
  | @unread _ f | @endless _ _ f =>
    by_cases hf : f = .malformed
    · subst hf
      exact ⟨fun _ hunforeseen => by cases hunforeseen; contradiction, fun _ => rfl⟩
    · have hunforeseen : Unforeseen (.yaml f) := .valueless hf
      cases f <;> simp_all [isPassedOver]

/-! ### Without the global file -/

theorem globalPath_eq (hpath : globalPath w = .ok file) :
    ∃ (anchor : Anchor) (parts : List String),
      file = Path.text ⟨anchor, parts ++ ["config.yml"]⟩ := by
  have hname : Path.ofText "config.yml" = ⟨.relative, ["config.yml"]⟩ := by decide +kernel
  obtain ⟨directory, -, rfl⟩ := map_eq_ok_iff.mp hpath
  exact ⟨_, _, by rw [hname, Path.append_relative]⟩

theorem globalPath_unlink (w : World) (path : String) :
    globalPath (w.unlink path) = globalPath w := by
  rw [globalPath, globalPath, home, home, userDirectory?, userDirectory?,
    World.environment_unlink, World.userDirectory?_unlink]

theorem projectPath_eq (root : Path) {name : String} (h : name ∈ projectNames) :
    (root ++ Path.ofText name).text = Path.text ⟨root.anchor, root.parts ++ [name]⟩ := by
  have hname : ∀ name ∈ projectNames, Path.ofText name = ⟨.relative, [name]⟩ := by decide +kernel
  rw [hname name h, Path.append_relative]

/-- A file of a project has another name than the global file. -/
theorem place_project_ne_global (root : Path) {name : String} (h : name ∈ projectNames)
    (hpath : globalPath w = .ok file) (hglobal : w.isFile file = .ok true) :
    w.place (root ++ Path.ofText name).text ≠ w.place file := by
  intro hsame
  obtain ⟨place, -, hplace, -⟩ := World.exists_place_of_isFile hglobal
  rw [hplace, projectPath_eq root h] at hsame
  obtain ⟨anchor, parts, rfl⟩ := globalPath_eq hpath
  have hconfig : place.getLast? = some "config.yml" :=
    World.getLast?_of_place (by decide +kernel) (by decide +kernel) hplace
  have hnames : ∀ name ∈ projectNames,
      name ∉ ["", ".", ".."] ∧ '/' ∉ name.toList ∧ name ≠ "config.yml" := by decide +kernel
  obtain ⟨hreal, hslash, hne⟩ := hnames name h
  have hlast := World.getLast?_of_place hreal hslash hsame
  exact hne (Option.some.inj (hlast.symm.trans hconfig))

theorem usable_unlink {path : String} (hfile : w.isFile file = .ok true)
    (h : w.place path ≠ w.place file) (hpath : w.contains path = .ok true) :
    usable (w.unlink file) path = usable w path :=
  usable_congr (World.environment_unlink w file) (World.read_unlink hfile h hpath)

/-- The layer of the file that is asked for, or of the project's file, is the same without the
global file unless the global file is asked for. -/
theorem value_projectLayer_unlink (root : Option Path) (hpath : globalPath w = .ok file)
    (hglobal : w.isFile file = .ok true)
    (hcustom : ∀ path ∈ custom, w.place path.text ≠ w.place file) :
    (projectLayer (w.unlink file) root custom).run.value =
      (projectLayer w root custom).run.value := by
  cases custom with
  | some path =>
    have hne := hcustom path rfl
    rw [value_projectLayer_custom, value_projectLayer_custom]
    exact customLayer_congr (World.ask_unlink hglobal hne _) (usable_unlink hglobal hne)
  | none =>
    cases root with
    | none => rfl
    | some root =>
      have hne : ∀ path ∈ projectNames.map fun name => (root ++ Path.ofText name).text,
          w.place path ≠ w.place file := by
        simp only [List.forall_mem_map]
        exact fun name hname => place_project_ne_global root hname hpath hglobal
      rw [value_projectLayer_project, value_projectLayer_project]
      exact firstLayer_congr (fun path hpath => World.ask_unlink hglobal (hne path hpath) _)
        fun path hpath hregular =>
          usable_unlink hglobal (hne path hpath) (World.contains_of_isFile hregular)

/-- A broken global file is no less broken if it is asked for. -/
theorem customLayer_of_broken {path : String} (hglobal : w.isFile file = .ok true)
    (he : Spoiled w file e) (hforeseen : ¬Unforeseen e) (h : w.place path = w.place file) :
    ∃ e', customLayer w path = .error e' := by
  by_cases hnul : '\x00' ∈ path.toList
  · have hcontains : w.contains path = .ok false := by
      rw [World.contains, World.ask, World.status, if_pos hnul]
    exact ⟨.notFound path, by rw [customLayer, hcontains]; rfl⟩
  · have hstatus := World.status_of_place_eq hglobal hnul h
    obtain ⟨-, node, -, -, hnode, hregular⟩ := World.exists_place_of_isFile hglobal
    have hcontains : w.contains path = .ok true := by
      rw [World.contains, World.ask, hstatus, hnode]
    obtain ⟨e', he'⟩ : ∃ e', Spoiled w path e' := by
      have hread : (∃ f, w.read path = .error f) ∨ w.read path = w.read file := by
        rw [World.read, World.read, hstatus, hnode]
        cases node <;> simp_all
      rcases hread with ⟨f, hf⟩ | hread
      · exact ⟨_, .unopened hf⟩
      · have htext {text : List Char} (ht : HasText w file text) : HasText w path text := by
          rwa [HasText, hread]
        cases he with
        | unopened hf => exact ⟨_, .unopened (hread.trans hf)⟩
        | undecodable hbytes hf => exact ⟨_, .undecodable (hread.trans hbytes) hf⟩
        | unread ht hf => exact ⟨_, .unread (htext ht) hf⟩
        | notMapping ht hdata hnull hmapping =>
          exact ⟨_, .notMapping (htext ht) hdata hnull hmapping⟩
        | endless ht hdata hmapping hf => exact ⟨_, .endless (htext ht) hdata hmapping hf⟩
        | unencodable => exact absurd (.unencodable _) hforeseen
        | unchecked => exact absurd (.unchecked _) hforeseen
    refine ⟨e'.within path, ?_⟩
    rw [customLayer, hcontains, usable_eq_error_iff.mpr he']
    rfl

/-! ### Loading -/

/-- **A broken global file is as good as none, unless its fault is unforeseen.** Let the global file
be no layer. If its fault is foreseen then loading comes to what it comes to without the file; only
where the file is itself asked for is it missed, and then loading fails with the file and without
it. If its fault is unforeseen then loading comes to this fault, whatever else there is. -/
theorem load_of_broken_global (w : World) (root custom : Option Path) (overrides : Entries)
    (file : String) (e : LoadFault) (hpath : globalPath w = .ok file)
    (hglobal : w.isFile file = .ok true) (he : Spoiled w file e) :
    let result (w : World) := (load w root custom overrides).run.value
    (¬Unforeseen e →
      ((∀ path ∈ custom, w.place path.text ≠ w.place file) → result w = result (w.unlink file)) ∧
      ∀ path ∈ custom, w.place path.text = w.place file →
        (∃ e', result w = .error e') ∧ result (w.unlink file) = .error (.notFound path.text)) ∧
    (Unforeseen e → result w = .error e) := by
  intro result
  have hfault := value_globalLayer_of_error hpath hglobal (usable_eq_error_iff.mpr he)
  have hgone : (globalLayer (w.unlink file)).run.value = .ok none :=
    value_globalLayer_of_absent ((globalPath_unlink w file).trans hpath)
      (World.isFile_unlink_self hglobal)
  refine ⟨fun hforeseen => ?_, fun hunforeseen => ?_⟩
  · rw [if_pos ((isPassedOver_iff hglobal he).mpr hforeseen)] at hfault
    refine ⟨fun hcustom => ?_, fun path hcustom hsame => ?_⟩
    · have hproject : (projectLayer (w.unlink file) root custom).run.value =
          (projectLayer w root custom).run.value :=
        value_projectLayer_unlink root hpath hglobal hcustom
      simp only [result, value_load, value_layers, hfault, hgone, hproject]
    · obtain rfl : custom = some path := hcustom
      obtain ⟨e', he'⟩ := customLayer_of_broken hglobal he hforeseen hsame
      have hmissed : customLayer (w.unlink file) path.text = .error (.notFound path.text) := by
        rw [customLayer, World.contains_unlink_self hglobal hsame]
        rfl
      simp only [result, value_load, value_layers, hfault, hgone, value_projectLayer_custom, he',
        hmissed]
      exact ⟨⟨e', rfl⟩, rfl⟩
  · have hnot : ¬isPassedOver e = true := fun h => (isPassedOver_iff hglobal he).mp h hunforeseen
    rw [if_neg hnot] at hfault
    simp only [result, value_load, value_layers, hfault]
    rfl

/-- A global file that holds a list is as good as none: the settings are those of the project. -/
theorem load_of_global_list :
    let ascii (text : String) : List UInt8 := text.toList.map fun c => UInt8.ofNat c.toNat
    let file := "/h/.lintbridge/config.yml"
    let w : World := .ofFiles "/p" (.set .empty "HOME" "/h")
      [(file, .file (ascii "- name: x\n") false),
        ("/p/.lintbridge.yaml", .file (ascii "surface_errors: true\n") false)]
    let root := some (Path.ofText "/p")
    let loaded : Loaded := { surfaceErrors := true, sources := ["project:/p/.lintbridge.yaml"] }
    globalPath w = .ok file ∧ w.isFile file = .ok true ∧
      Spoiled w file (.notMapping "list") ∧ ¬Unforeseen (.notMapping "list") ∧
      w.unlink file = w.remove file ∧
      (load (w.remove file) root none []).run.value = .ok loaded ∧
      (load w root none []).run.value = .ok loaded := by
  intro ascii file w root loaded
  have hpath : globalPath w = .ok file := by
    decide +kernel
  have hfile : w.isFile file = .ok true := by
    decide +kernel
  have hspoiled : Spoiled w file (.notMapping "list") :=
    usable_eq_error_iff.mp (map_eq_error_iff (g := fun _ => ()).mp (by decide +kernel))
  have hforeseen : ¬Unforeseen (.notMapping "list") := fun h => nomatch h
  have hremoved : w.unlink file = w.remove file := by
    decide +kernel
  have hload : (load (w.remove file) root none []).run.value = .ok loaded := by
    decide +kernel
  have hsame : (load w root none []).run.value = (load (w.unlink file) root none []).run.value :=
    ((load_of_broken_global w root none [] file _ hpath hfile hspoiled).1 hforeseen).1 (by simp)
  rw [hremoved, hload] at hsame
  exact ⟨hpath, hfile, hspoiled, hforeseen, hremoved, hload, hsame⟩

/-- **A broken global file is not always as good as none.** A single byte that is no text ends the
loading, and without the file there would be settings. -/
theorem not_forall_unlink_global :
    ¬∀ (w : World) (root custom : Option Path) (overrides : Entries) (file : String)
      (e : LoadFault), globalPath w = .ok file → w.isFile file = .ok true → Spoiled w file e →
        (load w root custom overrides).run.value =
          (load (w.unlink file) root custom overrides).run.value := by
  intro h
  let file := "/h/.lintbridge/config.yml"
  let w : World := .ofFiles "/p" (.set .empty "HOME" "/h") [(file, .file [0xff] false)]
  have hspoiled : Spoiled w file (.undecodable ⟨0, [0xff], .start⟩) :=
    usable_eq_error_iff.mp (map_eq_error_iff (g := fun _ => ()).mp (by decide +kernel))
  have hsame := h w none none [] file _ (by decide +kernel) (by decide +kernel) hspoiled
  have hwith : (load w none none []).run.value =
      .error (.undecodable ⟨0, [0xff], .start⟩) := by
    decide +kernel
  have hwithout : (load (w.unlink file) none none []).run.value = .ok {} := by
    decide +kernel
  rw [hwith, hwithout] at hsame
  cases hsame

end ProjectLint.Config
