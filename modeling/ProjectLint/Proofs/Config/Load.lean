import ProjectLint.Proofs.Config.Expand
import ProjectLint.Proofs.Config.Interpret
import ProjectLint.Proofs.Config.Merge
import ProjectLint.Proofs.Yaml.Data

/-!
# The layers of a configuration

Settings that are loaded come from up to three layers: the global file, a file that is asked for or
the one of the project, and the command line. Which layers there are depends on the files alone. The
settings list them, and take each of their values from the strongest layer that has its key.

## Main definitions

* `Config.GlobalLayer`, `Config.ProjectLayer`, `Config.Layered`: which layers there are.
* `Config.Chosen`: each setting is chosen from the strongest layer that has its key.

## Main results

* `proper_of_readEntries`: what is read from a file is a proper mapping.
* `layered_of_layers`: the layers that are laid over each other.
* `precedence_of_load`: where the settings come from.
-/

namespace ProjectLint.Config

open Text

variable {α β : Type} {w : World}

/-! ### Steps of loading -/

namespace Load

theorem bind_eq_ok_iff {m : Load α} {f : α → Load β} {b : β} :
    (m >>= f).run.value = .ok b ↔ ∃ a, m.run.value = .ok a ∧ (f a).run.value = .ok b := by
  rw [ExceptT.run_bind, Logged.value_bind]
  cases m.run.value <;> simp

theorem bind_eq_error_iff {m : Load α} {f : α → Load β} {e : LoadFault} :
    (m >>= f).run.value = .error e ↔
      m.run.value = .error e ∨ ∃ a, m.run.value = .ok a ∧ (f a).run.value = .error e := by
  rw [ExceptT.run_bind, Logged.value_bind]
  cases m.run.value <;> simp

@[simp] theorem value_liftM (x : Except LoadFault α) : (liftM x : Load α).run.value = x := by
  cases x <;> rfl

end Load

/-- What is read from a file: the entries that are written there, with their references
replaced. -/
theorem value_readEntries (w : World) (path : String) :
    (readEntries w path).run.value = (do
      let es ← fileEntries w path
      (Entries.expand w.environment es).run.value.mapError .unencodable) := by
  rw [readEntries, value_run_bind, Load.value_liftM]
  rfl

/-! ### Files -/

theorem proper_of_documentEntries {text : List Char} {es : Entries}
    (h : documentEntries text = .ok es) : (Value.map es).Proper := by
  obtain ⟨data, hdata, h⟩ := bind_eq_ok_iff.mp h
  split at h
  · cases h
    exact .map .nil (by simp)
  · split at h
    · obtain ⟨v, hv, h⟩ := bind_eq_ok_iff.mp h
      cases h
      exact (Yaml.proper_of_read (mapError_eq_ok_iff.mp hdata) (mapError_eq_ok_iff.mp hv)).entries
    · cases h

/-- What is read from a file is a proper mapping. -/
theorem proper_of_readEntries {path : String} {es : Entries}
    (h : (readEntries w path).run.value = .ok es) : (Value.map es).Proper := by
  rw [value_readEntries] at h
  obtain ⟨written, hwritten, h⟩ := bind_eq_ok_iff.mp h
  obtain ⟨bytes, -, hwritten⟩ := bind_eq_ok_iff.mp hwritten
  obtain ⟨text, -, hwritten⟩ := bind_eq_ok_iff.mp hwritten
  obtain ⟨-, rfl⟩ := (Entries.value_expand_eq_ok_iff _).mp (mapError_eq_ok_iff.mp h)
  exact (proper_of_documentEntries hwritten).replaced w.environment

theorem firstFile_eq_none_iff {paths : List String} :
    firstFile w paths = .ok none ↔ ∀ path ∈ paths, w.isFile path = .ok false := by
  induction paths with
  | nil => simp [firstFile]
  | cons path paths ih =>
    rw [firstFile, List.forall_mem_cons]
    rcases w.isFile path with e | b
    · simp
    · cases b <;> simp [ih]

theorem firstFile_eq_some {paths : List String} {path : String}
    (h : firstFile w paths = .ok (some path)) :
    ∃ before after, paths = before ++ path :: after ∧ w.isFile path = .ok true ∧
      ∀ other ∈ before, w.isFile other = .ok false := by
  induction paths with
  | nil => simp [firstFile] at h
  | cons other paths ih =>
    rw [firstFile] at h
    rcases hother : w.isFile other with e | b
    · simp [hother] at h
    · cases b with
      | true =>
        obtain rfl : other = path := by simpa [hother] using h
        exact ⟨[], paths, rfl, hother, by simp⟩
      | false =>
        obtain ⟨before, after, rfl, hpath, hbefore⟩ := ih (by simpa [hother] using h)
        exact ⟨other :: before, after, rfl, hpath, List.forall_mem_cons.mpr ⟨hother, hbefore⟩⟩

/-! ### Which layers there are -/

/-- The entries of a file with all references replaced, if it has any. -/
def expanded (w : World) (path : String) : Except LoadFault Entries :=
  (readEntries w path).run.value

/-- The layer of the global file. There is none if the file is no regular one, or cannot be read. -/
inductive GlobalLayer (w : World) : Option Layer → Prop
  | absent {file : String} (hfile : globalPath w = .ok file) (h : w.isFile file = .ok false) :
    GlobalLayer w none
  | unusable {file : String} {e : LoadFault} (hfile : globalPath w = .ok file)
    (h : w.isFile file = .ok true) (he : expanded w file = .error e) : GlobalLayer w none
  | used {file : String} {es : Entries} (hfile : globalPath w = .ok file)
    (h : w.isFile file = .ok true) (hes : expanded w file = .ok es) :
    GlobalLayer w (some ⟨es, "global:" ++ file⟩)

/-- The layer of the file that is asked for, or else of the first regular one of the four files that
a project can have. -/
inductive ProjectLayer (w : World) : (root custom : Option Path) → Option Layer → Prop
  | custom {root : Option Path} {path : Path} {es : Entries} (hes : expanded w path.text = .ok es) :
    ProjectLayer w root (some path) (some ⟨es, "custom:" ++ path.text⟩)
  | rootless : ProjectLayer w none none none
  | bare {root : Path}
    (h : ∀ name ∈ projectNames, w.isFile (root ++ Path.ofText name).text = .ok false) :
    ProjectLayer w (some root) none none
  | project {root : Path} {before after : List String} {name : String} {es : Entries}
    (hnames : projectNames = before ++ name :: after)
    (hbefore : ∀ other ∈ before, w.isFile (root ++ Path.ofText other).text = .ok false)
    (h : w.isFile (root ++ Path.ofText name).text = .ok true)
    (hes : expanded w (root ++ Path.ofText name).text = .ok es) :
    ProjectLayer w (some root) none (some ⟨es, "project:" ++ (root ++ Path.ofText name).text⟩)

/-- All layers, the weakest first. The last one is the command line, if it says anything. -/
inductive Layered (w : World) (root custom : Option Path) (overrides : Entries) :
    List Layer → Prop
  | intro {global project : Option Layer} (hglobal : GlobalLayer w global)
    (hproject : ProjectLayer w root custom project) :
    Layered w root custom overrides (global.toList ++ project.toList ++
      if overrides = [] then [] else [⟨overrides, "cli"⟩])

theorem GlobalLayer.unique {g g' : Option Layer} (h : GlobalLayer w g) (h' : GlobalLayer w g') :
    g = g' := by
  cases h <;> cases h' <;> simp_all

theorem find?_eq_some_of_first {paths before after : List String} {path : String}
    {p : String → Bool} (hpaths : paths = before ++ path :: after)
    (hbefore : ∀ other ∈ before, p other = false)
    (h : p path = true) : paths.find? p = some path := by
  have hnone : before.find? p = none := List.find?_eq_none.mpr (by simpa using hbefore)
  rw [hpaths, List.find?_append, hnone, Option.none_or, List.find?_cons_of_pos h]

theorem ProjectLayer.unique {root custom : Option Path} {p p' : Option Layer}
    (h : ProjectLayer w root custom p) (h' : ProjectLayer w root custom p') : p = p' := by
  let regular (root : Path) (name : String) : Bool :=
    (w.isFile (root ++ Path.ofText name).text).toOption = some true
  cases h with
  | custom hes =>
    cases h' with
    | custom hes' => simp_all
  | rootless => cases h'; rfl
  | @bare root h =>
    cases h' with
    | bare => rfl
    | @project _ before after name _ hnames _ hregular _ =>
      have hname := h name (by simp [hnames])
      simp [hregular] at hname
  | @project root before after name es hnames hbefore h hes =>
    cases h' with
    | bare hbare =>
      have hname := hbare name (by simp [hnames])
      simp [h] at hname
    | @project _ before' after' name' es' hnames' hbefore' h' hes' =>
      have hfirst : projectNames.find? (regular root) = some name :=
        find?_eq_some_of_first hnames
          (fun other ho => by simp [regular, hbefore other ho, Except.toOption])
          (by simp [regular, h, Except.toOption])
      have hfirst' : projectNames.find? (regular root) = some name' :=
        find?_eq_some_of_first hnames'
          (fun other ho => by simp [regular, hbefore' other ho, Except.toOption])
          (by simp [regular, h', Except.toOption])
      obtain rfl : name = name' := Option.some.inj (hfirst.symm.trans hfirst')
      obtain rfl : es = es' := Except.ok.inj (hes.symm.trans hes')
      rfl

/-- The files determine the layers. -/
theorem Layered.unique {root custom : Option Path} {overrides : Entries} {ls ls' : List Layer}
    (h : Layered w root custom overrides ls) (h' : Layered w root custom overrides ls') :
    ls = ls' := by
  obtain ⟨hglobal, hproject⟩ := h
  obtain ⟨hglobal', hproject'⟩ := h'
  rw [hglobal.unique hglobal', hproject.unique hproject']

theorem fileLayer_eq_ok {path kind loaded : String} {l : Layer}
    (h : (fileLayer w path kind loaded).run.value = .ok l) :
    ∃ es, expanded w path = .ok es ∧ l = ⟨es, kind ++ ":" ++ path⟩ := by
  obtain ⟨es, hes, h⟩ := Load.bind_eq_ok_iff.mp h
  obtain ⟨_, -, h⟩ := Load.bind_eq_ok_iff.mp h
  obtain ⟨_, -, h⟩ := Load.bind_eq_ok_iff.mp h
  cases h
  exact ⟨es, hes, rfl⟩

/-- A fault that is passed over is met when the file is read. -/
theorem fileLayer_eq_error {path kind loaded : String} {e : LoadFault}
    (h : (fileLayer w path kind loaded).run.value = .error e) (he : isPassedOver e = true) :
    expanded w path = .error e := by
  rcases Load.bind_eq_error_iff.mp h with hread | ⟨es, -, h⟩
  · exact hread
  · rcases Load.bind_eq_error_iff.mp h with hcheck | ⟨_, -, h⟩
    · rw [ExceptT.run_mk, Logged.value_map, value_check] at hcheck
      cases hwarnings : warnings path (.map es) with
      | error fault =>
        rw [hwarnings] at hcheck
        cases hcheck
        cases he
      | ok _ =>
        rw [hwarnings] at hcheck
        cases hcheck
    · rcases Load.bind_eq_error_iff.mp h with h | ⟨_, -, h⟩ <;> cases h

theorem globalLayer_of_ok {g : Option Layer} (h : (globalLayer w).run.value = .ok g) :
    GlobalLayer w g := by
  obtain ⟨found, hfound, h⟩ := Load.bind_eq_ok_iff.mp h
  rw [Load.value_liftM] at hfound
  obtain ⟨file, hfile, hfound⟩ := bind_eq_ok_iff.mp hfound
  rw [mapError_eq_ok_iff] at hfound
  cases found with
  | none =>
    cases h
    exact .absent hfile (firstFile_eq_none_iff.mp hfound _ (by simp))
  | some path =>
    obtain ⟨before, after, hpaths, hregular, -⟩ := firstFile_eq_some hfound
    obtain rfl : path = file := by
      have hmem : path ∈ before ++ path :: after := by simp
      rwa [← hpaths, List.mem_singleton] at hmem
    simp only [ExceptT.run_mk, Logged.value_bind] at h
    cases hlayer : (fileLayer w path "global" "Loaded global config from").run.value with
    | ok l =>
      rw [hlayer] at h
      cases h
      obtain ⟨es, hes, rfl⟩ := fileLayer_eq_ok hlayer
      exact .used hfile hregular hes
    | error e =>
      rw [hlayer] at h
      by_cases hpassed : isPassedOver e = true
      · simp only [hpassed, if_true] at h
        cases h
        exact .unusable hfile hregular (fileLayer_eq_error hlayer hpassed)
      · simp [hpassed] at h

theorem requiredLayer_eq_ok {path kind : String} {l : Layer}
    (h : (requiredLayer w path kind).run.value = .ok l) :
    ∃ es, expanded w path = .ok es ∧ l = ⟨es, kind ++ ":" ++ path⟩ :=
  fileLayer_eq_ok (mapError_eq_ok_iff.mp h)

theorem projectLayer_of_ok {root custom : Option Path} {p : Option Layer}
    (h : (projectLayer w root custom).run.value = .ok p) : ProjectLayer w root custom p := by
  cases custom with
  | some path =>
    obtain ⟨exists_, -, h⟩ := Load.bind_eq_ok_iff.mp h
    split at h
    · obtain ⟨l, hl, h⟩ := Load.bind_eq_ok_iff.mp h
      cases h
      obtain ⟨es, hes, rfl⟩ := requiredLayer_eq_ok hl
      exact .custom hes
    · cases h
  | none =>
    cases root with
    | none =>
      cases h
      exact .rootless
    | some root =>
      obtain ⟨file, hfile, h⟩ := Load.bind_eq_ok_iff.mp h
      rw [Load.value_liftM, mapError_eq_ok_iff, projectFile] at hfile
      cases file with
      | none =>
        cases h
        exact .bare (by simpa using firstFile_eq_none_iff.mp hfile)
      | some path =>
        obtain ⟨l, hl, h⟩ := Load.bind_eq_ok_iff.mp h
        cases h
        obtain ⟨es, hes, rfl⟩ := requiredLayer_eq_ok hl
        obtain ⟨before, after, hpaths, hregular, hbefore⟩ := firstFile_eq_some hfile
        obtain ⟨names, others, hnames, rfl, hrest⟩ := List.map_eq_append_iff.mp hpaths
        obtain ⟨name, others', rfl, rfl, rfl⟩ := List.map_eq_cons_iff.mp hrest
        exact .project hnames (by simpa using hbefore) hregular hes

theorem overrideLayer_of_ok {overrides : Entries} {o : Option Layer}
    (h : (overrideLayer overrides).run.value = .ok o) :
    o.toList = if overrides = [] then [] else [⟨overrides, "cli"⟩] := by
  unfold overrideLayer at h
  split at h
  · next hnothing => cases h; rw [if_pos hnothing]; rfl
  · next hsomething => cases h; rw [if_neg hsomething]; rfl

/-- The layers that are laid over each other. -/
theorem layered_of_layers {root custom : Option Path} {overrides : Entries} {ls : List Layer}
    (h : (layers w root custom overrides).run.value = .ok ls) :
    Layered w root custom overrides ls := by
  obtain ⟨g, hg, h⟩ := Load.bind_eq_ok_iff.mp h
  obtain ⟨p, hp, h⟩ := Load.bind_eq_ok_iff.mp h
  obtain ⟨o, ho, h⟩ := Load.bind_eq_ok_iff.mp h
  cases h
  rw [overrideLayer_of_ok ho]
  exact .intro (globalLayer_of_ok hg) (projectLayer_of_ok hp)

/-! ### Where settings come from -/

/-- The value of a setting of the linter in the strongest layer that has its key. -/
def linterValue? (ls : List Layer) (name : String) : Option Value :=
  strongest? (Layer.inSection? "linter" name) ls

/-- Each setting is chosen from the strongest layer that has its key. A value that is unusable for
it, such as null, counts as its default there, and does not give way to that of a weaker layer. -/
structure Chosen (ls : List Layer) (loaded : Loaded) : Prop where
  name : TakesText (Letter.ofText "eslint") (linterValue? ls "name") loaded.name
  binDir : TakesText (Letter.ofText "node_modules/.bin") (linterValue? ls "bin_dir") loaded.binDir
  modulesDir :
    TakesText (Letter.ofText "node_modules") (linterValue? ls "modules_dir") loaded.modulesDir
  searchVariable :
    TakesText (Letter.ofText "NODE_PATH") (linterValue? ls "module_search_var")
      loaded.searchVariable
  lintArguments :
    TakesTexts (["--no-color", "--format", "compact"].map Letter.ofText)
      (linterValue? ls "lint_args") loaded.lintArguments
  fixArguments :
    TakesTexts [Letter.ofText "--fix"] (linterValue? ls "fix_args") loaded.fixArguments
  timeout : TakesLimit (linterValue? ls "timeout") loaded.timeout
  runtime :
    TakesText (Letter.ofText "node") (strongest? (Layer.inSection? "runtime" "path") ls)
      loaded.runtime
  surfaceErrors :
    TakesSwitch (strongest? (Layer.value? "surface_errors") ls) loaded.surfaceErrors

/-- The settings that are made of all layers are chosen from the strongest ones. -/
theorem chosen_of_ofEntries {ls : List Layer} (h : ∀ l ∈ ls, l.Proper)
    (hlinter : ∀ l ∈ ls, l.Sectioned "linter") (hruntime : ∀ l ∈ ls, l.Sectioned "runtime")
    {loaded : Loaded} (hloaded : Loaded.ofEntries (mergeLayers ls) = .ok loaded) :
    Chosen ls loaded := by
  have hvalue (name : String) := alike_section_mergeLayers h hlinter name
  have htext (default : List Letter) (name : String) :=
    (hvalue name).text default ▸ takesText_text default (linterValue? ls name)
  have htexts (default : List (List Letter)) (name : String) :=
    (hvalue name).texts default ▸ takesTexts_texts default (linterValue? ls name)
  obtain ⟨limit, hlimit, hloaded⟩ := bind_eq_ok_iff.mp hloaded
  cases hloaded
  exact {
    name := htext _ "name"
    binDir := htext _ "bin_dir"
    modulesDir := htext _ "modules_dir"
    searchVariable := htext _ "module_search_var"
    lintArguments := htexts _ "lint_args"
    fixArguments := htexts _ "fix_args"
    timeout := takesLimit_of_timeout ((hvalue "timeout").timeout.symm.trans hlimit)
    runtime := (alike_section_mergeLayers h hruntime "path").text _ ▸ takesText_text _ _
    surfaceErrors :=
      (alike_field?_mergeLayers h "surface_errors").switch ▸ takesSwitch_switch _ }

theorem GlobalLayer.proper {g : Option Layer} (h : GlobalLayer w g) : ∀ l ∈ g, l.Proper := by
  cases h with
  | absent | unusable => simp
  | used _ _ hes =>
    rintro _ ⟨⟩
    exact proper_of_readEntries hes

theorem ProjectLayer.proper {root custom : Option Path} {p : Option Layer}
    (h : ProjectLayer w root custom p) : ∀ l ∈ p, l.Proper := by
  cases h with
  | rootless | bare => simp
  | custom hes | project _ _ _ hes =>
    rintro _ ⟨⟩
    exact proper_of_readEntries hes

/-- All layers are proper if the one of the command line is. -/
theorem Layered.proper {root custom : Option Path} {overrides : Entries} {ls : List Layer}
    (h : Layered w root custom overrides ls) (hoverrides : (Value.map overrides).Proper) :
    ∀ l ∈ ls, l.Proper := by
  obtain ⟨hglobal, hproject⟩ := h
  intro l hl
  rcases List.mem_append.mp hl with hl | hl
  · rcases List.mem_append.mp hl with hl | hl
    · exact hglobal.proper l (by simpa using hl)
    · exact hproject.proper l (by simpa using hl)
  · split at hl
    · simp at hl
    · rw [List.mem_singleton.mp hl]
      exact hoverrides

/-- **Settings come from the strongest layer that has their key.** Let settings be loaded, in any
world and with any arguments; what the command line says has each of its keys once. Their sources
are those of the layers that there are, the weakest first. If in every layer the two sections are
mappings or left out, then each setting has the value of the strongest layer that has its key. -/
theorem precedence_of_load (w : World) (root custom : Option Path) (overrides : Entries)
    (hoverrides : (Value.map overrides).Proper) (loaded : Loaded)
    (h : (load w root custom overrides).run.value = .ok loaded) :
    (∃! ls, Layered w root custom overrides ls) ∧
      ∀ ls, Layered w root custom overrides ls → loaded.sources = ls.map (·.source) ∧
        ((∀ l ∈ ls, l.Sectioned "linter" ∧ l.Sectioned "runtime") → Chosen ls loaded) := by
  obtain ⟨ls, hls, h⟩ := Load.bind_eq_ok_iff.mp h
  obtain ⟨loaded', hloaded, h⟩ := Load.bind_eq_ok_iff.mp h
  obtain ⟨_, -, h⟩ := Load.bind_eq_ok_iff.mp h
  cases h
  rw [Load.value_liftM, mapError_eq_ok_iff] at hloaded
  have hlayered := layered_of_layers hls
  refine ⟨⟨ls, hlayered, fun ls' h' => h'.unique hlayered⟩, fun ls' h' => ?_⟩
  obtain rfl := h'.unique hlayered
  refine ⟨rfl, fun hsections => ?_⟩
  have hchosen := chosen_of_ofEntries (hlayered.proper hoverrides)
    (fun l hl => (hsections l hl).1) (fun l hl => (hsections l hl).2) hloaded
  exact { hchosen with }

/-- The name of the global file gives way to a null, and its limit does not. A text is taken with
the half of a surrogate pair that it is. -/
theorem precedence_of_three_layers :
    let ascii (text : String) : List UInt8 := text.toList.map fun c => UInt8.ofNat c.toNat
    let w : World := .ofFiles "/p" (.set .empty "HOME" "/h")
      [("/h/.lintbridge/config.yml",
          .file (ascii "linter:\n  name: x\n  modules_dir: m\n  timeout: 5\n") false),
        ("/p/.lintbridge.yaml",
          .file (ascii "linter:\n  name: null\n  bin_dir: \"\\ud800\"\n  lint_args: [a, b]\n")
            false)]
    let root := some (Path.ofText "/p")
    let overrides : Entries := [(.str "runtime", .map [(.str "path", .str "deno")]),
      (.str "surface_errors", .bool true)]
    let loaded : Loaded :=
      { binDir := [.half 0xd800]
        modulesDir := Letter.ofText "m"
        lintArguments := [Letter.ofText "a", Letter.ofText "b"]
        timeout := Binary64.ofInt? 5
        runtime := Letter.ofText "deno"
        surfaceErrors := true
        sources := ["global:/h/.lintbridge/config.yml", "project:/p/.lintbridge.yaml", "cli"] }
    (Value.map overrides).Proper ∧ (load w root none overrides).run.value = .ok loaded ∧
      ∃ ls, Layered w root none overrides ls ∧ loaded.sources = ls.map (·.source) ∧
        Chosen ls loaded := by
  intro ascii w root overrides loaded
  have hoverrides : (Value.map overrides).Proper := by
    refine .map ?_ fun e he => ?_
    · exact List.pairwise_pair.mpr rfl
    · rcases List.mem_pair.mp he with rfl | rfl
      · exact .map (List.pairwise_singleton _ _) (by simpa using .single rfl)
      · exact .single rfl
  have hload : (load w root none overrides).run.value = .ok loaded :=
    by decide +kernel
  have hsections : ((layers w root none overrides).run.value.toOption.any fun ls =>
      ls.all fun l => (l.entries.field? "linter").all Value.isMap &&
        (l.entries.field? "runtime").all Value.isMap) = true := by
    decide +kernel
  obtain ⟨ls, hls, hsections⟩ := (Option.any_eq_true _ _).mp hsections
  have hlayered := layered_of_layers (toOption_eq_some_iff.mp hls)
  obtain ⟨-, hlayers⟩ := precedence_of_load w root none overrides hoverrides loaded hload
  obtain ⟨hsources, hchosen⟩ := hlayers ls hlayered
  refine ⟨hoverrides, hload, ls, hlayered, hsources, hchosen fun l hl => ?_⟩
  have hl := List.all_eq_true.mp hsections l hl
  simp only [Bool.and_eq_true, Option.all_eq_true] at hl
  exact hl

end ProjectLint.Config
