import ProjectLint.Proofs.Config.Fault
import ProjectLint.Proofs.Config.Interpret

/-!
# How loading fails

Where there is no global file, loading turns to one file: the one that is asked for, or else the
first one that the project has. Loading fails either with a mistake of the user, who is told of it,
or with a fault that nothing expects: the system refuses the file, or something in it is of no use
in a way that is not foreseen. It also fails if nothing tells where a global file would be.

## Main definitions

* `Config.Homeless`: nothing tells where a global file would be.
* `Config.Sought`: the file that loading turns to.
* `Config.Refused`: the system does not tell which file that is.
* `Config.Mistaken`: loading fails with a mistake of the user.
* `Config.Escaped`: loading fails with a fault that nothing expects.

## Main results

* `load_eq_error_iff`: loading fails exactly in these ways.
-/

namespace ProjectLint.Config

variable {w : World} {root custom : Option Path} {overrides : Entries} {file : String}
  {e : LoadFault}

/-- Nothing tells where a global file would be: the variable for its directory is not set or empty,
and the directory of the user is not known, or begins with a tilde. -/
def Homeless (w : World) : Prop :=
  (∀ directory, w.environment.get? "LINTBRIDGE_HOME" = some directory → directory = "") ∧
    ∀ directory, (w.environment.get? "HOME").or w.files.userDirectory? = some directory →
      directory.toList.head? = some '~'

/-- The file that loading turns to: the one that is asked for, if it exists, or else the first
regular one of the four that a project can have. -/
inductive Sought (w : World) (root : Option Path) : Option Path → String → Prop
  | custom {path : Path} (hhome : ¬Homeless w) (h : w.contains path.text = .ok true) :
    Sought w root (some path) path.text
  | project {base : Path} {path : String} (hhome : ¬Homeless w) (hroot : root = some base)
    (h : projectFile w base = .ok (some path)) : Sought w root none path

/-- The system refuses to tell which file loading turns to. -/
inductive Refused (w : World) (root : Option Path) : Option Path → FileFault → Prop
  | custom {path : Path} {f : FileFault} (hhome : ¬Homeless w)
    (h : w.contains path.text = .error f) : Refused w root (some path) f
  | project {base : Path} {f : FileFault} (hhome : ¬Homeless w) (hroot : root = some base)
    (h : projectFile w base = .error f) : Refused w root none f

/-- A mistake of the user: the file that is asked for does not exist, or a file is no document, or
another document than a mapping. -/
inductive Mistaken (w : World) (root : Option Path) : Option Path → LoadFault → Prop
  | missing {path : Path} (hhome : ¬Homeless w) (h : w.contains path.text = .ok false) :
    Mistaken w root (some path) (.notFound path.text)
  | malformed {custom : Option Path} {file : String} (h : Sought w root custom file)
    (hf : Spoiled w file (.yaml .malformed)) : Mistaken w root custom (.invalid file)
  | notMapping {custom : Option Path} {file typeName : String} (h : Sought w root custom file)
    (hf : Spoiled w file (.notMapping typeName)) : Mistaken w root custom (.notMapping typeName)

/-- A fault that nothing expects: nothing tells where a global file would be, or the system refuses
to look for a file or to open it, or something unforeseen is wrong with it, or the limit of a run is
too great for a number of seconds. -/
inductive Escaped (w : World) (root custom : Option Path) (overrides : Entries) : LoadFault → Prop
  | homeless (h : Homeless w) : Escaped w root custom overrides .homeless
  | refused {f : FileFault} (h : Refused w root custom f) :
    Escaped w root custom overrides (.file f)
  | unopened {file : String} {f : FileFault} (h : Sought w root custom file)
    (hf : w.read file = .error f) : Escaped w root custom overrides (.file f)
  | unforeseen {file : String} {e : LoadFault} (h : Sought w root custom file)
    (he : Spoiled w file e) (hunforeseen : Unforeseen e) : Escaped w root custom overrides e
  | excessive {ls : List Layer} {n : Int}
    (hls : (layers w root custom overrides).run.value = .ok ls)
    (hn : (sectionEntries (mergeLayers ls) "linter").field? "timeout" = some (.int n))
    (hrange : (Binary64.limit : Int) ≤ n) :
    Escaped w root custom overrides (.settings .timeoutTooLarge)

theorem Mistaken.isMistake (h : Mistaken w root custom e) : e.isMistake = true := by
  cases h <;> rfl

theorem Unforeseen.isMistake (h : Unforeseen e) : e.isMistake = false := by
  cases h <;> rfl

theorem Escaped.isMistake (h : Escaped w root custom overrides e) : e.isMistake = false := by
  cases h with
  | homeless | refused | unopened | excessive => rfl
  | unforeseen _ _ hunforeseen => exact hunforeseen.isMistake

/-! ### Where a global file would be -/

/-- A character that is kept at the end is kept at the front. -/
theorem head?_dropLastWhile {p : Char → Bool} {c : Char} (hc : p c = false) (cs : List Char) :
    (Text.dropLastWhile p cs).head? = some c ↔ cs.head? = some c := by
  constructor
  · intro h
    obtain ⟨rest, hrest⟩ : Text.dropLastWhile p cs <+: cs := by
      rw [Text.dropLastWhile, ← List.reverse_suffix, List.reverse_reverse]
      exact List.dropWhile_suffix p
    rw [← hrest, List.head?_append, h, Option.some_or]
  · intro h
    obtain ⟨rest, rfl⟩ := List.head?_eq_some_iff.mp h
    rw [Text.dropLastWhile, List.reverse_cons, List.dropWhile_append]
    split <;> simp [hc]

theorem userDirectory?_eq_none_iff : userDirectory? w = none ↔
    ∀ directory, (w.environment.get? "HOME").or w.files.userDirectory? = some directory →
      directory.toList.head? = some '~' := by
  rw [userDirectory?]
  cases (w.environment.get? "HOME").or w.files.userDirectory? with
  | none => simp
  | some directory =>
    have hhead := head?_dropLastWhile (p := (· = '/')) (c := '~') rfl directory.toList
    simp only [bind, Option.bind, Option.some.injEq, forall_eq', ← hhead]
    split
    · next hempty => simp [hempty]
    · split <;> simp_all

theorem globalPath_eq_error_iff : globalPath w = .error e ↔ e = .homeless ∧ Homeless w := by
  rw [globalPath, map_eq_error_iff, home, Homeless, ← userDirectory?_eq_none_iff]
  cases hvariable : w.environment.get? "LINTBRIDGE_HOME" with
  | none => cases userDirectory? w <;> simp [eq_comm]
  | some directory =>
    by_cases hempty : directory = ""
    · cases userDirectory? w <;> simp [hempty, Option.filter_some, eq_comm (a := e)]
    · simp [hempty, Option.filter_some]

theorem exists_globalPath (hhome : ¬Homeless w) : ∃ path, globalPath w = .ok path := by
  cases hpath : globalPath w with
  | ok path => exact ⟨path, rfl⟩
  | error e => exact absurd (globalPath_eq_error_iff.mp hpath).2 hhome

/-! ### The file that loading turns to -/

/-- What loading is told about the file that it turns to. -/
inductive Told (w : World) (file : String) : LoadFault → Prop
  | malformed (h : Spoiled w file (.yaml .malformed)) : Told w file (.invalid file)
  | notMapping {typeName : String} (h : Spoiled w file (.notMapping typeName)) :
    Told w file (.notMapping typeName)
  | unopened {f : FileFault} (h : w.read file = .error f) : Told w file (.file f)
  | unforeseen {e : LoadFault} (h : Spoiled w file e) (hunforeseen : Unforeseen e) : Told w file e

theorem within_of_unforeseen (h : Unforeseen e) : e.within file = e := by
  cases h with
  | undecodable | unencodable | unchecked => rfl
  | valueless hf => grind [LoadFault.within]

/-- What is wrong with a file is foreseen in three cases only. -/
theorem Spoiled.cases (h : Spoiled w file e) :
    (∃ f, w.read file = .error f ∧ e = .file f) ∨ e = .yaml .malformed ∨
      (∃ typeName, e = .notMapping typeName) ∨ Unforeseen e := by
  cases h with
  | unopened h => exact .inl ⟨_, h, rfl⟩
  | undecodable => exact .inr (.inr (.inr (.undecodable _)))
  | unencodable => exact .inr (.inr (.inr (.unencodable _)))
  | notMapping => exact .inr (.inr (.inl ⟨_, rfl⟩))
  | unchecked => exact .inr (.inr (.inr (.unchecked _)))
  | @unread _ f | @endless _ _ f =>
    by_cases hf : f = .malformed
    · exact .inr (.inl (congrArg LoadFault.yaml hf))
    · exact .inr (.inr (.inr (.valueless hf)))

theorem told_iff : (usable w file).mapError (.within file) = .error e ↔ Told w file e := by
  rw [mapError_eq_error_iff]
  simp only [usable_eq_error_iff]
  constructor
  · rintro ⟨d, hd, rfl⟩
    rcases hd.cases with ⟨f, hf, rfl⟩ | rfl | ⟨typeName, rfl⟩ | hunforeseen
    · exact .unopened hf
    · exact .malformed hd
    · exact .notMapping hd
    · rw [within_of_unforeseen hunforeseen]
      exact .unforeseen hd hunforeseen
  · intro h
    cases h with
    | malformed h => exact ⟨_, h, rfl⟩
    | notMapping h => exact ⟨_, h, rfl⟩
    | unopened h => exact ⟨_, .unopened h, rfl⟩
    | unforeseen h hunforeseen => exact ⟨e, h, within_of_unforeseen hunforeseen⟩

theorem customLayer_eq_error_iff :
    customLayer w file = .error e ↔ (∃ f, w.contains file = .error f ∧ .file f = e) ∨
      (w.contains file = .ok false ∧ .notFound file = e) ∨
      w.contains file = .ok true ∧ Told w file e := by
  rw [customLayer, ← told_iff]
  rcases w.contains file with f | found
  · simp [Except.mapError, bind, Except.bind]
  · cases found
    · simp [Except.mapError, bind, Except.bind, throw, throwThe, MonadExceptOf.throw]
    · cases usable w file <;> simp [Except.mapError, bind, Except.bind, pure, Except.pure]

theorem firstLayer_eq_error_iff {paths : List String} :
    firstLayer w paths = .error e ↔ (∃ f, firstFile w paths = .error f ∧ .file f = e) ∨
      ∃ path, firstFile w paths = .ok (some path) ∧ Told w path e := by
  simp only [firstLayer, ← told_iff]
  rcases firstFile w paths with f | found
  · simp [Except.mapError, bind, Except.bind]
  · rcases found with _ | path
    · simp [Except.mapError, bind, Except.bind, pure, Except.pure]
    · cases h : usable w path <;> simp [h, Except.mapError, bind, Except.bind, pure, Except.pure]

/-- How the layer of the file fails. -/
theorem projectLayer_eq_error_iff (hhome : ¬Homeless w) :
    (projectLayer w root custom).run.value = .error e ↔
      (∃ path, custom = some path ∧ w.contains path.text = .ok false ∧ .notFound path.text = e) ∨
      (∃ f, Refused w root custom f ∧ .file f = e) ∨
      ∃ file, Sought w root custom file ∧ Told w file e := by
  constructor
  · intro h
    cases custom with
    | some path =>
      rw [value_projectLayer_custom, customLayer_eq_error_iff] at h
      rcases h with ⟨f, hf, rfl⟩ | ⟨hmissing, rfl⟩ | ⟨hfound, htold⟩
      · exact .inr (.inl ⟨f, .custom hhome hf, rfl⟩)
      · exact .inl ⟨path, rfl, hmissing, rfl⟩
      · exact .inr (.inr ⟨_, .custom hhome hfound, htold⟩)
    | none =>
      cases root with
      | none => cases h
      | some base =>
        rw [value_projectLayer_project, firstLayer_eq_error_iff] at h
        rcases h with ⟨f, hf, rfl⟩ | ⟨path, hpath, htold⟩
        · exact .inr (.inl ⟨f, .project hhome rfl hf, rfl⟩)
        · exact .inr (.inr ⟨path, .project hhome rfl hpath, htold⟩)
  · rintro (⟨path, rfl, hmissing, rfl⟩ | ⟨f, hrefused, rfl⟩ | ⟨file, hsought, htold⟩)
    · rw [value_projectLayer_custom, customLayer_eq_error_iff]
      exact .inr (.inl ⟨hmissing, rfl⟩)
    · cases hrefused with
      | custom _ hf =>
        rw [value_projectLayer_custom, customLayer_eq_error_iff]
        exact .inl ⟨f, hf, rfl⟩
      | project _ hroot hf =>
        rw [hroot, value_projectLayer_project, firstLayer_eq_error_iff]
        exact .inl ⟨f, hf, rfl⟩
    · cases hsought with
      | custom _ hfound =>
        rw [value_projectLayer_custom, customLayer_eq_error_iff]
        exact .inr (.inr ⟨hfound, htold⟩)
      | project _ hroot hpath =>
        rw [hroot, value_projectLayer_project, firstLayer_eq_error_iff]
        exact .inr ⟨file, hpath, htold⟩

/-! ### Loading -/

theorem ofLayers_eq_error_iff {ls : List Layer} :
    ofLayers ls = .error e ↔ .settings .timeoutTooLarge = e ∧
      ∃ n, (sectionEntries (mergeLayers ls) "linter").field? "timeout" = some (.int n) ∧
        (Binary64.limit : Int) ≤ n := by
  rw [ofLayers, bind_eq_error_iff, mapError_eq_error_iff]
  simp only [ofEntries_eq_error_iff]
  constructor
  · rintro (⟨⟨⟩, hn, rfl⟩ | ⟨_, -, ⟨⟩⟩)
    exact ⟨rfl, hn⟩
  · rintro ⟨rfl, hn⟩
    exact .inl ⟨_, hn, rfl⟩

theorem layers_eq_error_of_homeless (hhome : Homeless w) :
    (layers w root custom overrides).run.value = .error .homeless := by
  rw [value_layers, value_globalLayer_of_homeless (globalPath_eq_error_iff.mpr ⟨rfl, hhome⟩)]
  rfl

/-- Where nothing tells where a global file would be, nothing else is told. -/
theorem eq_homeless_of_homeless (hhome : Homeless w)
    (h : Mistaken w root custom e ∨ Escaped w root custom overrides e) : .homeless = e := by
  have hsought {file : String} (h : Sought w root custom file) : False := by
    cases h <;> contradiction
  rcases h with h | h
  · cases h with
    | missing hhome' => exact absurd hhome hhome'
    | malformed h | notMapping h => exact (hsought h).elim
  · cases h with
    | homeless => rfl
    | refused h => cases h <;> contradiction
    | unopened h | unforeseen h => exact (hsought h).elim
    | excessive hls =>
      rw [layers_eq_error_of_homeless hhome] at hls
      cases hls

theorem layers_eq_error_iff (hglobal : ∀ path, globalPath w = .ok path → w.isFile path = .ok false)
    (hhome : ¬Homeless w) :
    (layers w root custom overrides).run.value = .error e ↔
      (projectLayer w root custom).run.value = .error e := by
  obtain ⟨path, hpath⟩ := exists_globalPath hhome
  rw [value_layers, value_globalLayer_of_absent hpath (hglobal path hpath)]
  cases (projectLayer w root custom).run.value <;> simp [bind, Except.bind, pure, Except.pure]

/-- **Loading fails with a mistake of the user, or with a fault that nothing expects.** Let there be
no global file. Then these are exactly the ways in which loading fails. -/
theorem load_eq_error_iff
    (hglobal : ∀ path, globalPath w = .ok path → w.isFile path = .ok false) :
    (load w root custom overrides).run.value = .error e ↔
      Mistaken w root custom e ∨ Escaped w root custom overrides e := by
  rw [value_load, bind_eq_error_iff]
  by_cases hhome : Homeless w
  · simp only [layers_eq_error_of_homeless hhome, Except.error.injEq, reduceCtorEq, false_and,
      exists_false, or_false]
    constructor
    · rintro rfl
      exact .inr (.homeless hhome)
    · exact eq_homeless_of_homeless hhome
  · rw [layers_eq_error_iff hglobal hhome, projectLayer_eq_error_iff hhome]
    simp only [ofLayers_eq_error_iff]
    constructor
    · rintro ((⟨path, rfl, hmissing, rfl⟩ | ⟨f, hf, rfl⟩ | ⟨file, hfile, htold⟩) |
        ⟨ls, hls, rfl, n, hn, hrange⟩)
      · exact .inl (.missing hhome hmissing)
      · exact .inr (.refused hf)
      · cases htold with
        | malformed h => exact .inl (.malformed hfile h)
        | notMapping h => exact .inl (.notMapping hfile h)
        | unopened h => exact .inr (.unopened hfile h)
        | unforeseen h hunforeseen => exact .inr (.unforeseen hfile h hunforeseen)
      · exact .inr (.excessive hls hn hrange)
    · rintro (hmistaken | hescaped)
      · cases hmistaken with
        | missing _ h => exact .inl (.inl ⟨_, rfl, h, rfl⟩)
        | malformed hfile h => exact .inl (.inr (.inr ⟨_, hfile, .malformed h⟩))
        | notMapping hfile h => exact .inl (.inr (.inr ⟨_, hfile, .notMapping h⟩))
      · cases hescaped with
        | homeless h => exact absurd h hhome
        | refused h => exact .inl (.inr (.inl ⟨_, h, rfl⟩))
        | unopened hfile h => exact .inl (.inr (.inr ⟨_, hfile, .unopened h⟩))
        | unforeseen hfile h hunforeseen =>
          exact .inl (.inr (.inr ⟨_, hfile, .unforeseen h hunforeseen⟩))
        | excessive hls hn hrange => exact .inr ⟨_, hls, rfl, _, hn, hrange⟩

end ProjectLint.Config
