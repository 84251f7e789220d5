import ProjectLint.Proofs.Config.Interpret
import ProjectLint.Proofs.Config.Remarks
import ProjectLint.Proofs.Config.Shown
import ProjectLint.Proofs.Config.Value

/-!
# What is checked and what is used

The values of a configuration are looked at twice: when mistakes in them are told, and when they
become settings. The two agree. A setting is warned about exactly if the value that it is given is
not used, with two exceptions that have to do with texts: an empty text is silently replaced by the
default, and a key of the outermost mapping may be spelled like the full name of a setting.

## Main definitions

* `Config.Setting`: the nine settings, with `Setting.given?`, the value that a mapping gives one,
  and `Setting.Uses`, whether settings have it.

## Main results

* `tells_remarks_iff`: which settings the remarks about a mapping warn about.
* `isUsable_eq_false_iff`: which values are not used.
* `warned_iff_unused`: a setting is warned about exactly if its value is not used.
* `not_forall_warned_iff_unused`: an empty text is an exception.
-/

namespace ProjectLint.Config

open Text

/-! ### Settings -/

/-- The nine settings. -/
inductive Setting
  | name
  | binDir
  | modulesDir
  | searchVariable
  | lintArguments
  | fixArguments
  | timeout
  | runtime
  | surfaceErrors
  deriving DecidableEq

namespace Setting

/-- The key of a setting in the mapping that holds it. -/
def word : Setting → String
  | .name => "name"
  | .binDir => "bin_dir"
  | .modulesDir => "modules_dir"
  | .searchVariable => "module_search_var"
  | .lintArguments => "lint_args"
  | .fixArguments => "fix_args"
  | .timeout => "timeout"
  | .runtime => "path"
  | .surfaceErrors => "surface_errors"

/-- What stands before the key in the full name of a setting. -/
def path : Setting → String
  | .runtime => "runtime."
  | .surfaceErrors => ""
  | _ => "linter."

/-- The full name of a setting. -/
def key (x : Setting) : String := x.path ++ x.word

/-- The mapping that holds a setting. -/
def holder (es : Entries) : Setting → Entries
  | .runtime => sectionEntries es "runtime"
  | .surfaceErrors => es
  | _ => sectionEntries es "linter"

/-- The value that a mapping gives a setting, unless it is null. -/
def given? (es : Entries) (x : Setting) : Option Value := Config.given? (x.holder es) x.word

/-- The check of a setting's value. -/
def isUsable : Setting → Value → Bool
  | .lintArguments => isTextList
  | .fixArguments => isTextList
  | .timeout => isLimit
  | .surfaceErrors => isSwitch
  | _ => isText

/-- The settings of the linter that are texts. -/
def isName : Setting → Bool
  | .name => true
  | .binDir => true
  | .modulesDir => true
  | .searchVariable => true
  | _ => false

end Setting

/-- A number as one of double precision. -/
def double? : Value → Option Binary64
  | .int n => Binary64.ofInt? n
  | .float x => some x
  | _ => none

/-- A value is a list that holds nothing but given texts. -/
def IsTextsOf (v : Value) (texts : List (List Letter)) : Prop :=
  ∃ vs, v = .list vs ∧ List.Forall₂ Value.IsText vs texts

/-- Settings have a value, with its type; a limit has it as a number of double precision. -/
def Setting.Uses (loaded : Loaded) : Setting → Value → Prop
  | .name, v => v.IsText loaded.name
  | .binDir, v => v.IsText loaded.binDir
  | .modulesDir, v => v.IsText loaded.modulesDir
  | .searchVariable, v => v.IsText loaded.searchVariable
  | .lintArguments, v => IsTextsOf v loaded.lintArguments
  | .fixArguments, v => IsTextsOf v loaded.fixArguments
  | .timeout, v => ∃ x, loaded.timeout = some x ∧ double? v = some x
  | .runtime, v => v.IsText loaded.runtime
  | .surfaceErrors, v => v = .bool loaded.surfaceErrors

/-! ### Which settings are warned about -/

/-- The keys of a mapping and of its two sections. -/
def keys (es : Entries) : List Value :=
  (es ++ sectionEntries es "linter" ++ sectionEntries es "runtime").map (·.1)

theorem isWord_word (x : Setting) : Value.isWord x.word = true := by
  cases x <;> decide

theorem isWord_key (x : Setting) : Value.isWord x.key = true := by
  cases x <;> decide

/-- Sections are told apart by their first letters. -/
theorem path_eq_of_head?_eq (x : Setting) :
    ∀ path ∈ ["linter.", "runtime."], path.toList.head? = x.key.toList.head? → x.path = path := by
  cases x <;> decide

/-- The full name of a setting begins with no other section than its own. -/
theorem eq_of_append_eq_key {path s : String} {x : Setting} (hpath : path ∈ ["linter.", "runtime."])
    (h : path ++ s = x.key) : x.path = path ∧ s = x.word := by
  have hown : x.path = path := by
    refine path_eq_of_head?_eq x path hpath ?_
    rw [← h, String.toList_append]
    simp only [List.mem_cons, List.not_mem_nil, or_false] at hpath
    rcases hpath with rfl | rfl <;> rfl
  rw [Setting.key, hown] at h
  exact ⟨hown, (String.append_right_inj _).mp h⟩

section

variable {source : String} {es : Entries} {x : Setting}

/-- An unknown key of a section is not told by the name of a setting. -/
theorem not_tells_unknownKeys {known : List String} {path kind : String}
    (hgenuine : ∀ e ∈ es, e.1.IsGenuine) (hpath : path ∈ ["linter.", "runtime."])
    (hknown : ∀ x : Setting, x.path = path → x.word ∈ known) :
    ¬Tells (unknownKeys source es known path kind) x.key := by
  rw [tells_unknownKeys]
  rintro ⟨e, he, hunknown, -, hkey⟩
  obtain ⟨hown, hshown⟩ := eq_of_append_eq_key hpath hkey
  have hword : Value.isWord e.1.shown = true := by
    rw [hshown]
    exact isWord_word x
  have hstr := Value.eq_str_of_isWord (hgenuine e he) hword
  rw [hshown] at hstr
  rw [hstr] at hunknown
  simp [isKnown, hknown x hown] at hunknown

/-- An unknown key of the outermost mapping is told by the name of a setting exactly if it is
spelled like it. -/
theorem tells_topKeys_iff (hgenuine : ∀ e ∈ es, e.1.IsGenuine)
    (hshow : ∀ e ∈ es, e.1.isShowable = true) :
    Tells (unknownKeys source es topKeys "" "top-level key") x.key ↔
      x ≠ .surfaceErrors ∧ (es.field? x.key).isSome = true := by
  rw [tells_unknownKeys]
  constructor
  · rintro ⟨e, he, hunknown, -, hkey⟩
    rw [String.empty_append] at hkey
    have hstr : e.1 = .str x.key := by
      rw [← hkey]
      refine Value.eq_str_of_isWord (hgenuine e he) ?_
      rw [hkey]
      exact isWord_key x
    refine ⟨?_, ?_⟩
    · rintro rfl
      rw [hstr] at hunknown
      revert hunknown
      decide
    · rw [Entries.field?, Entries.get?, Option.isSome_map, List.find?_isSome]
      exact ⟨e, he, Value.sameKey_str_iff.mpr hstr⟩
  · rintro ⟨hother, hfield⟩
    rw [Entries.field?, Entries.get?, Option.isSome_map, List.find?_isSome] at hfield
    obtain ⟨e, he, hsame⟩ := hfield
    have hstr := Value.sameKey_str_iff.mp hsame
    refine ⟨e, he, ?_, hshow e he, ?_⟩
    · rw [hstr]
      cases x <;> first | decide | exact absurd rfl hother
    · rw [hstr]
      exact String.empty_append

theorem tells_linterRemarks_iff (hgenuine : ∀ e ∈ es, e.1.IsGenuine) :
    Tells (linterRemarks source es) x.key ↔
      x.path = "linter." ∧ ∃ v, given? es x.word = some v ∧ x.isUsable v = false := by
  have hunknown : ¬Tells (unknownKeys source es linterKeys "linter." "key") x.key :=
    not_tells_unknownKeys hgenuine (by decide) fun x => by cases x <;> decide
  simp only [linterRemarks, tells_append, tells_flatMap, tells_expect, hunknown, false_or]
  cases x <;> simp [linterTextKeys, linterListKeys, Setting.key, Setting.path, Setting.word,
    Setting.isUsable]

theorem tells_runtimeRemarks_iff (hgenuine : ∀ e ∈ es, e.1.IsGenuine) :
    Tells (runtimeRemarks source es) x.key ↔
      x.path = "runtime." ∧ ∃ v, given? es x.word = some v ∧ x.isUsable v = false := by
  have hunknown : ¬Tells (unknownKeys source es runtimeKeys "runtime." "key") x.key :=
    not_tells_unknownKeys hgenuine (by decide) fun x => by cases x <;> decide
  simp only [runtimeRemarks, tells_append, tells_expect, hunknown, false_or]
  cases x <;> simp [Setting.key, Setting.path, Setting.word, Setting.isUsable]

/-- The remarks about a mapping whose sections are mappings, null or left out. -/
theorem remarks_eq
    (hsections : ∀ name ∈ ["linter", "runtime"], ∀ v, es.field? name = some v →
      v = .null ∨ v.isMap = true) :
    remarks source (.map es) = unknownKeys source es topKeys "" "top-level key" ++
      linterRemarks source (sectionEntries es "linter") ++
      runtimeRemarks source (sectionEntries es "runtime") ++
      expect source es "surface_errors" "surface_errors" isSwitch "a boolean" := by
  rw [remarks, inSection_eq (hsections "linter" (by simp)) rfl,
    inSection_eq (hsections "runtime" (by simp)) rfl]

/-- Which settings the remarks about a mapping warn about. -/
theorem tells_remarks_iff
    (hsections : ∀ name ∈ ["linter", "runtime"], ∀ v, es.field? name = some v →
      v = .null ∨ v.isMap = true)
    (hgenuine : ∀ k ∈ keys es, k.IsGenuine) (hshow : ∀ k ∈ keys es, k.isShowable = true) :
    Tells (remarks source (.map es)) x.key ↔
      (x ≠ .surfaceErrors ∧ (es.field? x.key).isSome = true) ∨
        ∃ v, x.given? es = some v ∧ x.isUsable v = false := by
  simp only [keys, List.forall_mem_map, List.forall_mem_append] at hgenuine hshow
  obtain ⟨⟨htop, hlinter⟩, hruntime⟩ := hgenuine
  rw [remarks_eq hsections, tells_append, tells_append, tells_append,
    tells_topKeys_iff htop hshow.1.1, tells_linterRemarks_iff hlinter,
    tells_runtimeRemarks_iff hruntime, tells_expect]
  cases x <;> simp [Setting.given?, Setting.holder, Setting.path, Setting.key, Setting.word,
    Setting.isUsable]

/-- All mistakes can be told if all keys can be shown. -/
theorem exists_warnings
    (hsections : ∀ name ∈ ["linter", "runtime"], ∀ v, es.field? name = some v →
      v = .null ∨ v.isMap = true)
    (hshow : ∀ k ∈ keys es, k.isShowable = true) :
    ∃ ws, warnings source (.map es) = .ok ws := by
  simp only [keys, List.forall_mem_map, List.forall_mem_append] at hshow
  obtain ⟨⟨htop, hlinter⟩, hruntime⟩ := hshow
  rw [warnings, exists_settle_iff, remarks_eq hsections]
  intro e
  simp [linterRemarks, runtimeRemarks, error_notMem_unknownKeys htop,
    error_notMem_unknownKeys hlinter, error_notMem_unknownKeys hruntime, error_notMem_expect]

end

/-! ### Which values are used -/

section

variable {es : Entries} {x : Setting} {v : Value} {loaded : Loaded}

theorem field?_of_given? {name : String} (h : Config.given? es name = some v) :
    es.field? name = some v := (Option.filter_eq_some_iff.mp h).1

/-- A text is used unless it is empty. -/
theorem isText_eq_false_iff {default : List Letter} :
    isText v = false ↔ ¬v.IsText (text default (some v)) ∧ ¬v.IsText [] := by
  simp only [Value.isText_iff, isText, text, Option.bind_some]
  cases v.letters? with
  | none => simp
  | some ls => cases ls <;> simp

theorem isTextList_list_iff {vs : List Value} :
    isTextList (.list vs) = true ↔ ∃ texts, asTexts? vs = some texts := by
  rw [isTextList]
  induction vs with
  | nil => simp [asTexts?]
  | cons v vs ih =>
    rw [List.all_cons, Bool.and_eq_true, ih, isText, asTexts?]
    cases v.letters? <;> cases asTexts? vs <;> simp

/-- A list is used if it holds texts alone. -/
theorem isTextList_eq_false_iff {default : List (List Letter)} :
    isTextList v = false ↔ ¬IsTextsOf v (texts default (some v)) := by
  cases v with
  | list vs =>
    have hof (texts : List (List Letter)) :
        IsTextsOf (.list vs) texts ↔ asTexts? vs = some texts := by
      simp [IsTextsOf, asTexts?_eq_some_iff]
    rw [← Bool.not_eq_true, isTextList_list_iff, hof, texts]
    cases asTexts? vs <;> simp
  | _ => simp [isTextList, IsTextsOf]

/-- A limit is used if it is above zero. -/
theorem isLimit_eq_false_iff {limit : Option Binary64} (h : timeout (some v) = .ok limit)
    (hnan : v ≠ .float .nan) :
    isLimit v = false ↔ ¬∃ x, limit = some x ∧ double? v = some x := by
  cases v with
  | int n =>
    rw [timeout] at h
    by_cases hn : 0 < n
    · rw [if_pos hn] at h
      cases hdouble : Binary64.ofInt? n with
      | none =>
        rw [hdouble] at h
        cases h
      | some x =>
        rw [hdouble] at h
        cases h
        simp [isLimit, hn, double?, hdouble]
    · rw [if_neg hn] at h
      cases h
      simp [isLimit, hn]
  | float x =>
    cases h
    have hlimit : isLimit (.float x) = x.isPositive := by
      cases x <;> first | rfl | exact absurd rfl hnan
    cases hpositive : x.isPositive <;> simp [hlimit, hpositive, double?]
  | _ =>
    cases h
    simp [isLimit]

theorem isSwitch_eq_false_iff : isSwitch v = false ↔ v ≠ .bool (switch (some v)) := by
  cases v <;> simp [isSwitch, switch]

/-- Which values are not used. -/
theorem isUsable_eq_false_iff (hloaded : Loaded.ofEntries es = .ok loaded)
    (hv : x.given? es = some v) (hnan : x = .timeout → v ≠ .float .nan)
    (hempty : x = .runtime → ¬v.IsText []) :
    x.isUsable v = false ↔ ¬x.Uses loaded v ∧ ¬(x.isName = true ∧ v.IsText []) := by
  have hfield := field?_of_given? hv
  obtain ⟨limit, hlimit, hloaded⟩ := bind_eq_ok_iff.mp hloaded
  cases hloaded
  cases x <;> simp only [Setting.holder, Setting.word] at hfield <;>
    simp only [Setting.isUsable, Setting.Uses, Setting.isName, hfield, Bool.false_eq_true,
      false_and, not_false_eq_true, and_true, true_and]
  case name | binDir | modulesDir | searchVariable => exact isText_eq_false_iff
  case lintArguments | fixArguments => exact isTextList_eq_false_iff
  case timeout =>
    rw [hfield] at hlimit
    exact isLimit_eq_false_iff hlimit (hnan rfl)
  case runtime => exact isText_eq_false_iff.trans (and_iff_left (hempty rfl))
  case surfaceErrors => exact isSwitch_eq_false_iff

end

/-! ### Agreement -/

/-- **A setting is warned about exactly if its value is not used.** Let the two sections of a
mapping be mappings, null or left out, let all keys be fit to be shown, and let the limit of a run
be in the range of double precision. Then the mapping has warnings and settings. A setting that is
given a value is warned about exactly if the settings do not use the value, except for two things.
A text of the linter that is empty is not used, and is not warned about. And there is a warning
about the setting if the outermost mapping has a key that is spelled like its full name. Left open
is what becomes of a limit that is not a number, and of an empty runtime. -/
theorem warned_iff_unused (source : String) (es : Entries)
    (hsections : ∀ name ∈ ["linter", "runtime"], ∀ v, es.field? name = some v →
      v = .null ∨ v.isMap = true)
    (hgenuine : ∀ k ∈ keys es, k.IsGenuine) (hshow : ∀ k ∈ keys es, k.isShowable = true)
    (hlimit : ∀ n, Setting.given? es .timeout = some (.int n) → n < Binary64.limit) :
    ∃ ws loaded, warnings source (.map es) = .ok ws ∧ Loaded.ofEntries es = .ok loaded ∧
      ∀ (x : Setting) (v : Value), x.given? es = some v →
        (x = .timeout → v ≠ .float .nan) → (x = .runtime → ¬v.IsText []) →
        ((∃ w ∈ ws, w.key = some x.key) ↔
          (¬x.Uses loaded v ∧ ¬(x.isName = true ∧ v.IsText [])) ∨
            x ≠ .surfaceErrors ∧ (es.field? x.key).isSome = true) := by
  obtain ⟨ws, hws⟩ : ∃ ws, warnings source (.map es) = .ok ws := exists_warnings hsections hshow
  have hloaded : ∃ loaded, Loaded.ofEntries es = .ok loaded := by
    rcases h : Loaded.ofEntries es with f | loaded
    · obtain ⟨n, hn, hlarge⟩ := ofEntries_eq_error_iff.mp h
      have hgiven : Setting.given? es .timeout = some (.int n) :=
        Option.filter_eq_some_iff.mpr ⟨hn, rfl⟩
      exact absurd (hlimit n hgiven) (not_lt.mpr hlarge)
    · exact ⟨loaded, rfl⟩
  obtain ⟨loaded, hloaded⟩ := hloaded
  refine ⟨ws, loaded, hws, hloaded, fun x v hv hnan hempty => ?_⟩
  have hwarned : (∃ w ∈ ws, w.key = some x.key) ↔ Tells (remarks source (.map es)) x.key := by
    rw [Tells, settle_eq_ok_iff.mp hws]
    simp
  rw [hwarned, tells_remarks_iff hsections hgenuine hshow, or_comm,
    ← isUsable_eq_false_iff hloaded hv hnan hempty, hv]
  simp

/-- A limit below zero is warned about; an empty name is not, and neither is a list that is used. -/
theorem warned_about_limit :
    let es : Entries := [(.str "linter", .map [(.str "name", .str ""), (.str "timeout", .int (-1)),
      (.str "fix_args", .list [.str "--fix"])]), (.str "runtime", .null)]
    ∃ ws loaded, warnings "p.yml" (.map es) = .ok ws ∧ Loaded.ofEntries es = .ok loaded ∧
      (∃ w ∈ ws, w.key = some "linter.timeout") ∧ (¬∃ w ∈ ws, w.key = some "linter.name") ∧
      ¬∃ w ∈ ws, w.key = some "linter.fix_args" := by
  intro es
  have hsections : ∀ name ∈ ["linter", "runtime"], ∀ v, es.field? name = some v →
      v = .null ∨ v.isMap = true := by
    simp only [List.forall_mem_cons, List.not_mem_nil, false_imp_iff, implies_true, and_true]
    exact ⟨fun v h => .inr (by cases h; rfl), fun v h => .inl (by cases h; rfl)⟩
  have hkeys : keys es = ["linter", "runtime", "name", "timeout", "fix_args"].map .str := rfl
  have hgenuine : ∀ k ∈ keys es, k.IsGenuine := by
    rw [hkeys, List.forall_mem_map]
    exact fun _ _ => trivial
  have hshow : ∀ k ∈ keys es, k.isShowable = true := by
    rw [hkeys, List.forall_mem_map]
    exact fun _ _ => rfl
  have hlimit : ∀ n, Setting.given? es .timeout = some (.int n) → n < Binary64.limit := by
    intro n h
    cases h
    omega
  obtain ⟨ws, loaded, hws, hloaded, hagree⟩ :=
    warned_iff_unused "p.yml" es hsections hgenuine hshow hlimit
  have hfixed : loaded = {} := by
    have h : Loaded.ofEntries es = .ok {} := by decide +kernel
    rw [hloaded] at h
    exact Except.ok.inj h
  refine ⟨ws, loaded, hws, hloaded, ?_, ?_, ?_⟩
  · refine (hagree .timeout (.int (-1)) rfl (fun _ => nofun) nofun).mpr (.inl ⟨?_, nofun⟩)
    rw [hfixed]
    exact fun ⟨_, h, _⟩ => nomatch h
  · intro h
    rcases (hagree .name (.str "") rfl nofun nofun).mp h with ⟨-, h⟩ | ⟨-, h⟩
    · exact h ⟨rfl, .plain ""⟩
    · cases h
  · intro h
    rcases (hagree .fixArguments (.list [.str "--fix"]) rfl nofun nofun).mp h with ⟨h, -⟩ | ⟨-, h⟩
    · rw [hfixed] at h
      exact h ⟨_, rfl, .cons (.plain "--fix") .nil⟩
    · cases h

/-- **An empty text is not used, and is not warned about.** -/
theorem not_forall_warned_iff_unused :
    ¬∀ (source : String) (es : Entries) (ws : List Warning) (loaded : Loaded) (x : Setting)
      (v : Value), (∀ name ∈ ["linter", "runtime"], ∀ v, es.field? name = some v →
        v = .null ∨ v.isMap = true) →
      warnings source (.map es) = .ok ws → Loaded.ofEntries es = .ok loaded →
      x.given? es = some v → ((∃ w ∈ ws, w.key = some x.key) ↔ ¬x.Uses loaded v) := by
  intro h
  let es : Entries := [(.str "linter", .map [(.str "name", .str "")])]
  have hsections : ∀ name ∈ ["linter", "runtime"], ∀ v, es.field? name = some v →
      v = .null ∨ v.isMap = true := by
    simp only [List.forall_mem_cons, List.not_mem_nil, false_imp_iff, implies_true, and_true]
    exact ⟨fun v h => .inr (by cases h; rfl), fun v h => nomatch h⟩
  have hwarnings : warnings "p.yml" (.map es) = .ok [] := by decide +kernel
  have hloaded : Loaded.ofEntries es = .ok {} := by decide +kernel
  have hunused : ¬Setting.name.Uses {} (.str "") := by
    rw [Setting.Uses, Value.isText_iff]
    decide
  obtain ⟨w, hw, -⟩ :=
    (h "p.yml" es [] {} .name (.str "") hsections hwarnings hloaded rfl).mpr hunused
  cases hw

end ProjectLint.Config
