import ProjectLint.Proofs.Config.Expand
import ProjectLint.Proofs.Config.Override
import ProjectLint.Proofs.Config.Result

/-!
# Replacing references before and after merging

Each file has its references replaced before it is laid over the weaker ones. The same comes out if
the files are laid over each other as they are written and the references are replaced at the end:
no key is touched, and what is a mapping stays one, so the two steps decide alike at every depth.
In the second order the values that are overridden are gone before any reference is looked at. This
makes a difference only for a reference that cannot be looked up, and what the command line says is
laid over the files with its references in it.

## Main definitions

* `Config.Layer.Written`, `Config.Layer.Expands`: a layer as its file is written, and what becomes
  of it.

## Main results

* `Value.replaced_over`, `Entries.replaced_over`: the two orders come to the same.
* `Value.mem_references_over`: merging adds no references.
* `Value.at?_replaced`: what is at a path after the references are replaced.
* `Value.replaced_congr`: only the references in a value matter for what becomes of it.
* `Config.expand_merged`: the same for all that is loaded.
* `Config.not_forall_expand_merged`: where the two orders differ.
-/

namespace ProjectLint

open Config Text

variable {environment environment' : Environment}

/-! ### Merging -/

namespace Entries

theorem get?_replaced (environment : Environment) (es : Entries) (key : Value) :
    get? (Entries.replaced environment es) key =
      (get? es key).map (Value.replaced environment) := by
  induction es with
  | nil => rfl
  | cons e es ih =>
    obtain ⟨k, v⟩ := e
    rw [Entries.replaced, get?_cons, get?_cons, ih]
    split <;> rfl

theorem replaced_set (environment : Environment) (es : Entries) (key value : Value) :
    Entries.replaced environment (set es key value) =
      set (Entries.replaced environment es) key (value.replaced environment) := by
  induction es with
  | nil => rfl
  | cons e es ih =>
    obtain ⟨k, v⟩ := e
    rw [set, Entries.replaced, set]
    split
    · rfl
    · rw [Entries.replaced, ih]

/-- Mappings can be merged first if this holds of each value of the stronger one. -/
theorem replaced_over_of_forall {stronger : Entries}
    (h : ∀ e ∈ stronger, ∀ weaker : Option Value,
      (Value.over weaker e.2).replaced environment =
        Value.over (weaker.map (Value.replaced environment)) (e.2.replaced environment))
    (weaker : Entries) :
    Entries.replaced environment (Entries.over weaker stronger) =
      Entries.over (Entries.replaced environment weaker)
        (Entries.replaced environment stronger) := by
  induction stronger generalizing weaker with
  | nil => rw [nil_over, Entries.replaced, nil_over]
  | cons e stronger ih =>
    obtain ⟨key, v⟩ := e
    obtain ⟨hv, hstronger⟩ := List.forall_mem_cons.mp h
    rw [Entries.over, ih hstronger, replaced_set, hv, Entries.replaced, Entries.over,
      get?_replaced]

end Entries

/-- A value that is laid over another one can have its references replaced before or after. -/
theorem Value.replaced_over (environment : Environment) (weaker : Option Value) (v : Value) :
    (Value.over weaker v).replaced environment =
      Value.over (weaker.map (Value.replaced environment)) (v.replaced environment) := by
  induction v using nested_induction generalizing weaker with
  | list items ih =>
    rw [over_eq_self_of_not_isMap rfl, over_eq_self_of_not_isMap (by rw [isMap_replaced]; rfl)]
  | map es ih =>
    cases weaker with
    | none => rw [over_none, Option.map_none, over_none]
    | some w =>
      cases hw : w.isMap with
      | false =>
        rw [over_of_not_isMap hw, Option.map_some, over_of_not_isMap (by rw [isMap_replaced, hw])]
      | true =>
        obtain ⟨ws, rfl⟩ := isMap_iff.mp hw
        rw [Value.over, Value.replaced, Entries.replaced_over_of_forall ih, Option.map_some,
          Value.replaced, Value.replaced, Value.over]
  | other v hlist hmap =>
    rw [over_eq_self_of_not_isMap hmap, over_eq_self_of_not_isMap (by rw [isMap_replaced, hmap])]

/-- A mapping that is laid over another one can have its references replaced before or after. -/
theorem Entries.replaced_over (environment : Environment) (weaker stronger : Entries) :
    Entries.replaced environment (Entries.over weaker stronger) =
      Entries.over (Entries.replaced environment weaker)
        (Entries.replaced environment stronger) :=
  replaced_over_of_forall (fun e _ w => e.2.replaced_over environment w) weaker

/-- What is at a path after the references are replaced is what was there, with its references
replaced. -/
theorem Value.at?_replaced (environment : Environment) (v : Value) (path : List Value) :
    (v.replaced environment).at? path = (v.at? path).map (Value.replaced environment) := by
  induction path generalizing v with
  | nil => simp
  | cons key path ih =>
    cases hv : v.isMap with
    | false =>
      rw [at?_cons_of_not_isMap hv, at?_cons_of_not_isMap (by rw [isMap_replaced, hv])]
      rfl
    | true =>
      obtain ⟨es, rfl⟩ := isMap_iff.mp hv
      rw [Value.replaced, at?_map_cons, at?_map_cons, Entries.get?_replaced]
      cases Entries.get? es key with
      | none => rfl
      | some u => exact ih u

/-! ### The references that are left -/

section

variable {r : Reference}

theorem Value.mem_references_map {es : Entries} :
    r ∈ (Value.map es).references ↔ ∃ e ∈ es, r ∈ e.2.references := by
  rw [references_map, List.mem_flatMap]

theorem Entries.mem_references_get? {es : Entries} {key v : Value} (hv : get? es key = some v)
    (h : r ∈ v.references) : r ∈ (Value.map es).references := by
  obtain ⟨e, he, rfl⟩ := exists_mem_of_get? hv
  exact Value.mem_references_map.mpr ⟨e, he, h⟩

theorem Entries.mem_references_set {es : Entries} {key value : Value}
    (h : r ∈ (Value.map (set es key value)).references) :
    r ∈ value.references ∨ r ∈ (Value.map es).references := by
  induction es with
  | nil => simpa [Value.mem_references_map, set] using h
  | cons e es ih =>
    obtain ⟨k, v⟩ := e
    rw [set] at h
    simp only [Value.references_map, List.flatMap_cons, List.mem_append] at h ih ⊢
    split at h
    · rw [List.flatMap_cons, List.mem_append] at h
      exact h.imp_right .inr
    · rw [List.flatMap_cons, List.mem_append] at h
      rcases h with h | h
      · exact .inr (.inl h)
      · exact (ih h).imp_right .inr

theorem Entries.mem_references_over_of_forall {stronger : Entries}
    (hvalues : ∀ e ∈ stronger, ∀ weaker : Option Value, r ∈ (Value.over weaker e.2).references →
      r ∈ e.2.references ∨ ∃ w, weaker = some w ∧ r ∈ w.references)
    {weaker : Entries} (h : r ∈ (Value.map (Entries.over weaker stronger)).references) :
    r ∈ (Value.map stronger).references ∨ r ∈ (Value.map weaker).references := by
  induction stronger generalizing weaker with
  | nil => exact .inr (by rwa [nil_over] at h)
  | cons e stronger ih =>
    obtain ⟨key, v⟩ := e
    obtain ⟨hv, hstronger⟩ := List.forall_mem_cons.mp hvalues
    rw [Entries.over] at h
    rw [Value.references_map, List.flatMap_cons, List.mem_append, ← Value.references_map]
    rcases ih hstronger h with h | h
    · exact .inl (.inr h)
    · rcases mem_references_set h with h | h
      · rcases hv _ h with h | ⟨w, hw, h⟩
        · exact .inl (.inl h)
        · exact .inr (mem_references_get? hw h)
      · exact .inr h

/-- A value that is laid over another one refers to nothing that neither of the two refers to. -/
theorem Value.mem_references_over {weaker : Option Value} {v : Value}
    (h : r ∈ (Value.over weaker v).references) :
    r ∈ v.references ∨ ∃ w, weaker = some w ∧ r ∈ w.references := by
  induction v using nested_induction generalizing weaker with
  | list items ih => exact .inl (by rwa [over_eq_self_of_not_isMap rfl] at h)
  | map es ih =>
    cases weaker with
    | none => exact .inl (by rwa [over_none] at h)
    | some w =>
      cases hw : w.isMap with
      | false => exact .inl (by rwa [over_of_not_isMap hw] at h)
      | true =>
        obtain ⟨ws, rfl⟩ := isMap_iff.mp hw
        rw [Value.over] at h
        exact (Entries.mem_references_over_of_forall (fun e he _ => ih e he) h).imp_right
          fun h => ⟨_, rfl, h⟩
  | other v hlist hmap => exact .inl (by rwa [over_eq_self_of_not_isMap hmap] at h)

theorem Entries.mem_references_over {weaker stronger : Entries}
    (h : r ∈ (Value.map (Entries.over weaker stronger)).references) :
    r ∈ (Value.map stronger).references ∨ r ∈ (Value.map weaker).references :=
  mem_references_over_of_forall (fun _ _ _ => Value.mem_references_over) h

/-- What is at a path in a value refers to nothing that the value does not refer to. -/
theorem Value.mem_references_at? {v u : Value} {path : List Value} (hu : v.at? path = some u)
    (h : r ∈ u.references) : r ∈ v.references := by
  induction path generalizing v with
  | nil =>
    rw [at?_nil] at hu
    rwa [Option.some.inj hu]
  | cons key path ih =>
    cases hv : v.isMap with
    | false =>
      rw [at?_cons_of_not_isMap hv] at hu
      cases hu
    | true =>
      obtain ⟨es, rfl⟩ := isMap_iff.mp hv
      rw [at?_map_cons] at hu
      obtain ⟨w, hw, hu⟩ := Option.bind_eq_some_iff.mp hu
      exact Entries.mem_references_get? hw (ih hu)

end

/-- All names in a mapping that is laid over another one can be handed to the system if all names
in the two can. -/
theorem Entries.encodable_over {weaker stronger : Entries} (hweaker : (Value.map weaker).Encodable)
    (hstronger : (Value.map stronger).Encodable) :
    (Value.map (Entries.over weaker stronger)).Encodable := fun r hr =>
  (mem_references_over hr).elim (hstronger r) (hweaker r)

/-! ### The references that matter -/

/-- Only the references in a text matter for what becomes of it. -/
theorem Config.replacedText_congr {ls : List Letter}
    (h : ∀ r ∈ Config.references ls, r.replacement environment = r.replacement environment') :
    replacedText environment ls = replacedText environment' ls := by
  refine List.flatMap_congr fun s hs => ?_
  cases s with
  | plain l => rfl
  | reference r => exact h r (List.mem_filterMap.mpr ⟨_, hs, rfl⟩)

/-- Only the references in a value matter for what becomes of it. -/
theorem Value.replaced_congr {v : Value}
    (h : ∀ r ∈ v.references, r.replacement environment = r.replacement environment') :
    v.replaced environment = v.replaced environment' := by
  induction v using nested_induction with
  | list items ih =>
    rw [references_list] at h
    rw [replaced, replaced, replacedItems_eq, replacedItems_eq]
    refine congrArg Value.list (List.map_congr_left fun v hv => ?_)
    exact ih v hv fun r hr => h r (List.mem_flatMap.mpr ⟨v, hv, hr⟩)
  | map es ih =>
    rw [replaced, replaced, Entries.replaced_eq, Entries.replaced_eq]
    refine congrArg Value.map (List.map_congr_left fun e he => ?_)
    rw [ih e he fun r hr => h r (mem_references_map.mpr ⟨e, he, hr⟩)]
  | other v hlist hmap =>
    cases hletters : v.letters? with
    | none =>
      rw [(expand_of_other environment hletters hlist hmap).2.1,
        (expand_of_other environment' hletters hlist hmap).2.1]
    | some ls =>
      rw [references_of_letters? hletters] at h
      rw [(expand_of_letters? environment hletters).2, (expand_of_letters? environment' hletters).2,
        replacedText_congr h]

namespace Config

variable {w : World} {root custom : Option Path} {overrides : Entries} {ls : List Layer}

/-- A reference whose name can be handed to the system is replaced in the same way if the same comes
of it. -/
theorem Reference.replacement_congr {r : Reference} (h : r.Encodable)
    (hvalue : (r.value environment).run.value = (r.value environment').run.value) :
    r.replacement environment = r.replacement environment' := by
  rw [r.run_value h, r.run_value h] at hvalue
  exact Except.ok.inj hvalue

/-! ### Layers -/

namespace Layer

/-- A layer as its file is written. Its source names the file. -/
def Written (w : World) (l : Layer) : Prop :=
  ∃ kind ∈ ["global:", "custom:", "project:"], ∃ path, l.source = kind ++ path ∧
    fileEntries w path = .ok l.entries

/-- A layer is a file as it is written, with its references replaced. -/
structure Expands (w : World) (file l : Layer) : Prop where
  written : file.Written w
  source : l.source = file.source
  entries : (Entries.expand w.environment file.entries).run.value = .ok l.entries

/-- Whatever is read from a file is what is written there, with its references replaced. -/
theorem exists_expands (kind : String) (hkind : kind ∈ ["global:", "custom:", "project:"])
    {path : String} {es : Entries} (h : expanded w path = .ok es) :
    ∃ file : Layer, file.Expands w ⟨es, kind ++ path⟩ := by
  rw [expanded, value_readEntries] at h
  obtain ⟨written, hwritten, hes⟩ := bind_eq_ok_iff.mp h
  exact ⟨⟨written, kind ++ path⟩, ⟨kind, hkind, path, rfl, hwritten⟩, rfl,
    mapError_eq_ok_iff.mp hes⟩

end Layer

theorem GlobalLayer.exists_expands {g : Option Layer} (h : GlobalLayer w g) :
    ∃ files, List.Forall₂ (Layer.Expands w) files g.toList := by
  cases h with
  | absent | unusable => exact ⟨[], .nil⟩
  | used _ _ hes =>
    obtain ⟨file, hfile⟩ := Layer.exists_expands "global:" (by simp) hes
    exact ⟨[file], .cons hfile .nil⟩

theorem ProjectLayer.exists_expands {p : Option Layer} (h : ProjectLayer w root custom p) :
    ∃ files, List.Forall₂ (Layer.Expands w) files p.toList := by
  cases h with
  | rootless | bare => exact ⟨[], .nil⟩
  | custom hes =>
    obtain ⟨file, hfile⟩ := Layer.exists_expands "custom:" (by simp) hes
    exact ⟨[file], .cons hfile .nil⟩
  | project _ _ _ hes =>
    obtain ⟨file, hfile⟩ := Layer.exists_expands "project:" (by simp) hes
    exact ⟨[file], .cons hfile .nil⟩

/-- All layers but the one of the command line are files with their references replaced. -/
theorem Layered.exists_expands (h : Layered w root custom overrides ls) :
    ∃ files used, List.Forall₂ (Layer.Expands w) files used ∧
      ls = used ++ if overrides = [] then [] else [⟨overrides, "cli"⟩] := by
  obtain ⟨hglobal, hproject⟩ := h
  obtain ⟨globals, hglobals⟩ := hglobal.exists_expands
  obtain ⟨projects, hprojects⟩ := hproject.exists_expands
  exact ⟨globals ++ projects, _, List.rel_append hglobals hprojects, rfl⟩

/-- Files can be laid over a mapping first. -/
theorem foldl_over_of_expands {files used : List Layer}
    (h : List.Forall₂ (Layer.Expands w) files used) {es : Entries}
    (hes : (Value.map es).Encodable) :
    (Entries.expand w.environment
        (files.foldl (fun es l => Entries.over es l.entries) es)).run.value =
      .ok (used.foldl (fun es l => Entries.over es l.entries)
        (Entries.replaced w.environment es)) := by
  induction h generalizing es with
  | nil => exact (Entries.value_expand_eq_ok_iff _).mpr ⟨hes, rfl⟩
  | cons hfile hfiles ih =>
    obtain ⟨hencodable, hreplaced⟩ := (Entries.value_expand_eq_ok_iff _).mp hfile.entries
    rw [List.foldl_cons, List.foldl_cons, ih (Entries.encodable_over hes hencodable),
      Entries.replaced_over, hreplaced]

/-- Files can be merged first. -/
theorem value_expand_mergeLayers {files used : List Layer}
    (h : List.Forall₂ (Layer.Expands w) files used) :
    (Entries.expand w.environment (mergeLayers files)).run.value = .ok (mergeLayers used) :=
  foldl_over_of_expands h fun r hr => by simp [Value.references_map] at hr

/-- What the command line says is laid over what the files come to. -/
theorem mergeLayers_append_overrides (used : List Layer) (overrides : Entries) :
    mergeLayers (used ++ if overrides = [] then [] else [⟨overrides, "cli"⟩]) =
      Entries.over (mergeLayers used) overrides := by
  split
  · next hnothing => rw [hnothing, List.append_nil, Entries.nil_over]
  · rw [mergeLayers_snoc]

/-- **References can be replaced before or after merging.** Let the names of all references in two
mappings be such that they can be handed to the system. Then one that is laid over the other comes
to the same, at every depth, whether the references in the two are replaced first or those in what
they come to. No other references matter than those that are left when the two are merged. Where the
stronger mapping has a value, and the two do not both have a mapping, there is this value with its
references replaced, whatever the weaker one has there. So whenever the layers of a configuration
are found, what is loaded is made of the files as they are written: they are merged, then their
references are replaced, and what the command line says is laid over that as it is. -/
theorem expand_merged :
    (∀ (environment : Environment) (weaker stronger : Entries),
      (Value.map weaker).Encodable → (Value.map stronger).Encodable →
      ∃ es fs, (Entries.expand environment weaker).run.value = .ok es ∧
        (Entries.expand environment stronger).run.value = .ok fs ∧
        (Entries.expand environment (Entries.over weaker stronger)).run.value =
          .ok (Entries.over es fs) ∧
        (∀ environment' : Environment,
          (∀ r ∈ (Value.map (Entries.over weaker stronger)).references,
            (r.value environment').run.value = (r.value environment).run.value) →
          ∃ es' fs', (Entries.expand environment' weaker).run.value = .ok es' ∧
            (Entries.expand environment' stronger).run.value = .ok fs' ∧
            Entries.over es' fs' = Entries.over es fs) ∧
        ((Value.map stronger).Proper → ∀ (path : List Value) (v : Value),
          (Value.map stronger).at? path = some v →
          (v.isMap = false ∨ ∀ u, (Value.map weaker).at? path = some u → u.isMap = false) →
          ∃ u, (v.expand environment).run.value = .ok u ∧
            (Value.map (Entries.over es fs)).at? path = some u)) ∧
    ∀ (w : World) (root custom : Option Path) (overrides : Entries) (ls : List Layer),
      (layers w root custom overrides).run.value = .ok ls →
      ∃ files used, List.Forall₂ (Layer.Expands w) files used ∧
        ls = used ++ (if overrides = [] then [] else [⟨overrides, "cli"⟩]) ∧
        ∃ es, (Entries.expand w.environment (mergeLayers files)).run.value = .ok es ∧
          (load w root custom overrides).run.value =
            ((Loaded.ofEntries (Entries.over es overrides)).mapError LoadFault.settings).map
              fun loaded => { loaded with sources := ls.map (·.source) } := by
  refine ⟨fun environment weaker stronger hweaker hstronger => ?_,
    fun w root custom overrides ls hls => ?_⟩
  · have hexpand (environment : Environment) {es : Entries} (h : (Value.map es).Encodable) :
        (Entries.expand environment es).run.value = .ok (Entries.replaced environment es) :=
      (Entries.value_expand_eq_ok_iff environment).mpr ⟨h, rfl⟩
    have hmerged := Entries.encodable_over hweaker hstronger
    refine ⟨_, _, hexpand environment hweaker, hexpand environment hstronger, ?_,
      fun environment' h => ?_, fun hproper path v hv hoverrides => ?_⟩
    · rw [hexpand environment hmerged, Entries.replaced_over]
    · refine ⟨_, _, hexpand environment' hweaker, hexpand environment' hstronger, ?_⟩
      rw [← Entries.replaced_over, ← Entries.replaced_over]
      exact Value.map.inj (Value.replaced_congr fun r hr =>
        r.replacement_congr (hmerged r hr) (h r hr))
    · have hat : (Value.map (Entries.over weaker stronger)).at? path = some v := by
        rw [← Value.over]
        exact Value.at?_over_of_overrides hproper hv hoverrides
      have hencodable : v.Encodable := fun r hr =>
        hstronger r (Value.mem_references_at? hv hr)
      refine ⟨v.replaced environment, by rw [v.run_expand environment hencodable], ?_⟩
      rw [← Entries.replaced_over, ← Value.replaced, Value.at?_replaced, hat, Option.map_some]
  · obtain ⟨files, used, hfiles, rfl⟩ := (layered_of_layers hls).exists_expands
    refine ⟨files, used, hfiles, rfl, _, value_expand_mergeLayers hfiles, ?_⟩
    rw [value_load, hls, ← mergeLayers_append_overrides]
    change ofLayers _ = _
    rw [ofLayers]
    cases Loaded.ofEntries (mergeLayers _) <;> rfl

/-- A variable that only an overridden value refers to is of no consequence. -/
theorem expand_merged_override :
    let weaker : Entries := [(.str "linter",
      .map [(.str "name", .str "$\x7bA\x7d"), (.str "bin_dir", .str "$\x7bB\x7d")])]
    let stronger : Entries := [(.str "linter", .map [(.str "bin_dir", .str "$\x7bC:-d\x7d")])]
    let environment : Environment := .set .empty "A" "x"
    let ascii (text : String) : List UInt8 := text.toList.map fun c => UInt8.ofNat c.toNat
    let w : World := .ofFiles "/p" (environment.set "HOME" "/h")
      [("/h/.lintbridge/config.yml", .file (ascii "linter:\n  name: $\x7bA\x7d\n") false),
        ("/p/.lintbridge.yml", .file (ascii "linter:\n  bin_dir: $\x7bC:-d\x7d\n") false)]
    let root := some (Path.ofText "/p")
    let loaded : Loaded :=
      { name := Letter.ofText "x"
        binDir := Letter.ofText "d"
        sources := ["global:/h/.lintbridge/config.yml", "project:/p/.lintbridge.yml"] }
    (∃ es fs es' fs', (Entries.expand environment weaker).run.value = .ok es ∧
      (Entries.expand environment stronger).run.value = .ok fs ∧
      (Entries.expand environment (Entries.over weaker stronger)).run.value =
        .ok (Entries.over es fs) ∧
      (Entries.expand (environment.set "B" "y") weaker).run.value = .ok es' ∧
      (Entries.expand (environment.set "B" "y") stronger).run.value = .ok fs' ∧
      Entries.over es' fs' = Entries.over es fs ∧
      (Value.map (Entries.over es fs)).at? [.str "linter", .str "bin_dir"] = some (.str "d")) ∧
    (load w root none []).run.value = .ok loaded ∧
      ∃ ls, (layers w root none []).run.value = .ok ls ∧
        ∃ files used, List.Forall₂ (Layer.Expands w) files used ∧ ls = used ++ [] ∧
          ∃ es, (Entries.expand w.environment (mergeLayers files)).run.value = .ok es ∧
            (load w root none []).run.value =
              ((Loaded.ofEntries (Entries.over es [])).mapError LoadFault.settings).map
                fun loaded => { loaded with sources := ls.map (·.source) } := by
  intro weaker stronger environment ascii w root loaded
  obtain ⟨hmerged, hload⟩ := expand_merged
  have hreferences : (Value.map weaker).references =
        [⟨[.char 'A'], none⟩, ⟨[.char 'B'], none⟩] ∧
      (Value.map stronger).references = [⟨[.char 'C'], some [.char 'd']⟩] ∧
      (Value.map (Entries.over weaker stronger)).references =
        [⟨[.char 'A'], none⟩, ⟨[.char 'C'], some [.char 'd']⟩] := by
    have hover : Entries.over weaker stronger = [(.str "linter",
        .map [(.str "name", .str "$\x7bA\x7d"), (.str "bin_dir", .str "$\x7bC:-d\x7d")])] := rfl
    rw [hover]
    simp only [weaker, stronger, Value.references, Value.texts, Value.letters?,
      List.flatMap_cons, List.flatMap_nil]
    decide +kernel
  obtain ⟨hweaker, hstronger, hleft⟩ := hreferences
  have hproper : (Value.map stronger).Proper := by
    have hinner : (Value.map [(.str "bin_dir", .str "$\x7bC:-d\x7d")]).Proper :=
      .map (List.pairwise_singleton _ _) (by simpa using .single rfl)
    exact .map (List.pairwise_singleton _ _) (by simpa [stronger] using hinner)
  have hloaded : (load w root none []).run.value = .ok loaded :=
    by decide +kernel
  obtain ⟨ls, hls, -⟩ := Load.bind_eq_ok_iff.mp hloaded
  obtain ⟨es, fs, hes, hfs, hover, hsame, hplaces⟩ := hmerged environment weaker stronger
    (by rw [Value.Encodable, hweaker]; decide) (by rw [Value.Encodable, hstronger]; decide)
  obtain ⟨es', fs', hes', hfs', heq⟩ := hsame (environment.set "B" "y")
    (by rw [hleft]; decide +kernel)
  obtain ⟨u, hu, hat⟩ := hplaces hproper [.str "linter", .str "bin_dir"]
    (.str "$\x7bC:-d\x7d") rfl (.inl rfl)
  have hd : ((Value.str "$\x7bC:-d\x7d").expand environment).run.value = .ok (.str "d") := rfl
  rw [hd] at hu
  cases hu
  exact ⟨⟨es, fs, es', fs', hes, hfs, hover, hes', hfs', heq, hat⟩, hloaded, ls, hls,
    hload w root none [] ls hls⟩

/-- **The two orders are not the same everywhere.** A reference that cannot be looked up is met in
one order and gone in the other one, and a reference on the command line is not replaced. -/
theorem not_forall_expand_merged :
    (¬∀ (environment : Environment) (weaker stronger : Entries),
      (Entries.expand environment (Entries.over weaker stronger)).run.value = (do
        let es ← (Entries.expand environment weaker).run.value
        let fs ← (Entries.expand environment stronger).run.value
        return Entries.over es fs)) ∧
    ¬∀ (w : World) (overrides es : Entries) (loaded : Loaded),
      (load w none none overrides).run.value = .ok loaded → loaded.sources = ["cli"] →
      (Entries.expand w.environment overrides).run.value = .ok es →
      (Loaded.ofEntries es).map (·.runtime) = .ok loaded.runtime := by
  constructor
  · intro h
    have hes := h .empty
      [(.str "linter", .map [(.str "name", .illFormed [.char '$', .char '\x7b', .half 0xd800,
        .char '\x7d'])])]
      [(.str "linter", .str "x")]
    have hleft : ((Entries.expand .empty (Entries.over
        [(.str "linter", .map [(.str "name", .illFormed [.char '$', .char '\x7b', .half 0xd800,
          .char '\x7d'])])]
        [(.str "linter", .str "x")])).run.value).toOption.isSome = true := by decide +kernel
    rw [hes] at hleft
    exact absurd hleft (by decide +kernel)
  · intro h
    let overrides : Entries := [(.str "runtime", .map [(.str "path", .str "$\x7bX\x7d")])]
    let w : World := .ofFiles "/p" ((Environment.empty.set "X" "n").set "HOME" "/h") []
    let loaded : Loaded := { runtime := Letter.ofText "$\x7bX\x7d", sources := ["cli"] }
    have hloaded : (load w none none overrides).run.value = .ok loaded :=
      by decide +kernel
    have hsame := h w overrides [(.str "runtime", .map [(.str "path", .str "n")])] loaded hloaded
      rfl rfl
    exact absurd hsame (by decide +kernel)

end Config

end ProjectLint
