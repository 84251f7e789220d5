import Mathlib.Data.List.Induction
import ProjectLint.Config.Load
import ProjectLint.Proofs.Config.Key
import ProjectLint.Proofs.Config.Value

/-!
# What settings make of layers

Layers are laid over each other key by key, and mappings are merged at any depth. For a setting this
comes to the plainest of rules: it has the value of the strongest layer that has its key. A value
can differ from this one only where both are mappings, and no setting is a mapping.

## Main definitions

* `Config.Alike`: values that are used in the same way.
* `Config.strongest?`: the value in the strongest layer that has one.
* `Config.Layer.Sectioned`: a section is no other value in a layer.

## Main results

* `Entries.get?_over`: the value of a key in a mapping laid over another one.
* `Config.alike_field?_mergeLayers`: the value of a name in all layers.
* `Config.alike_section_mergeLayers`: the value of a name in a section of all layers.
-/

namespace ProjectLint

namespace Entries

theorem get?_eq_none_iff {es : Entries} {key : Value} :
    get? es key = none ↔ ∀ e ∈ es, e.1.sameKey key = false := by
  simp [get?]

/-- The value of a key is the value of an entry. -/
theorem exists_mem_of_get? {es : Entries} {key v : Value} (h : get? es key = some v) :
    ∃ e ∈ es, e.2 = v := by
  obtain ⟨e, he, rfl⟩ := Option.map_eq_some_iff.mp h
  exact ⟨e, List.mem_of_find?_eq_some he, rfl⟩

/-- The value of a key in a mapping laid over another one. -/
theorem get?_over {stronger : Entries}
    (h : stronger.Pairwise fun e f => e.1.sameKey f.1 = false) (weaker : Entries) (key : Value) :
    get? (Entries.over weaker stronger) key = match get? stronger key with
      | none => get? weaker key
      | some v => some (Value.over (get? weaker key) v) := by
  induction stronger generalizing weaker with
  | nil => simp
  | cons e stronger ih =>
    obtain ⟨k, v⟩ := e
    obtain ⟨hk, hstronger⟩ := List.pairwise_cons.mp h
    rw [Entries.over, ih hstronger, get?_set, get?_cons]
    by_cases hkey : k.sameKey key = true
    · have hnone : get? stronger key = none := get?_eq_none_iff.mpr fun e he => by
        rw [← Value.sameKey_congr hkey, Value.sameKey_comm]
        exact hk e he
      rw [hnone, if_pos hkey, if_pos hkey, get?_congr hkey]
    · rw [if_neg hkey, if_neg hkey]

/-- The value of a name in a mapping laid over another one. -/
theorem field?_over {stronger : Entries}
    (h : stronger.Pairwise fun e f => e.1.sameKey f.1 = false) (weaker : Entries) (name : String) :
    field? (Entries.over weaker stronger) name = match field? stronger name with
      | none => field? weaker name
      | some v => some (Value.over (field? weaker name) v) :=
  get?_over h weaker (.str name)

end Entries

namespace Value

theorem isMap_iff {v : Value} : v.isMap = true ↔ ∃ es : Entries, v = .map es := by
  cases v <;> simp [isMap]

theorem entries_of_not_isMap {v : Value} (h : v.isMap = false) : v.entries = [] := by
  cases v <;> simp_all [isMap, entries]

/-- A value that is laid over no mapping replaces what it is laid over. -/
theorem over_of_not_isMap {w : Value} (h : w.isMap = false) (v : Value) :
    Value.over (some w) v = v := by
  cases v with
  | map es => cases w <;> simp_all [isMap, Value.over]
  | _ => simp [Value.over]

end Value

theorem Value.Proper.keys {es : Entries} (h : (Value.map es).Proper) :
    es.Pairwise fun e f => e.1.sameKey f.1 = false := by
  cases h with
  | single h => simp [Value.isSingle] at h
  | map keys values => exact keys

theorem Value.Proper.get? {es : Entries} {key v : Value} (h : (Value.map es).Proper)
    (hv : es.get? key = some v) : v.Proper := by
  obtain ⟨e, he, rfl⟩ := Entries.exists_mem_of_get? hv
  cases h with
  | single h => simp [Value.isSingle] at h
  | map keys values => exact values e he

namespace Config

/-! ### Values that are used in the same way -/

/-- No setting is a mapping, so that all mappings are used in the same way, and so that only they
can be. -/
def Alike (a b : Option Value) : Prop :=
  a = b ∨ ∃ es fs, a = some (.map es) ∧ b = some (.map fs)

namespace Alike

variable {a b c : Option Value}

theorem trans (hab : Alike a b) (hbc : Alike b c) : Alike a c := by
  rcases hab with rfl | ⟨es, fs, rfl, rfl⟩
  · exact hbc
  · rcases hbc with rfl | ⟨fs', gs, -, rfl⟩
    · exact Or.inr ⟨es, fs, rfl, rfl⟩
    · exact Or.inr ⟨es, gs, rfl, rfl⟩

theorem or (c : Option Value) (h : Alike a b) : Alike (c.or a) (c.or b) := by
  cases c with
  | none => exact h
  | some v => exact Or.inl rfl

/-- What lies under a value is of no consequence. -/
theorem of_over (weaker : Option Value) (v : Value) :
    Alike (some (Value.over weaker v)) (some v) := by
  cases v with
  | map es =>
    obtain ⟨fs, hfs⟩ := Value.isMap_iff.mp (Value.isMap_over weaker (.map es))
    exact Or.inr ⟨fs, es, by rw [hfs], rfl⟩
  | _ => exact Or.inl (by simp [Value.over])

theorem text (h : Alike a b) (default : List Text.Letter) :
    Config.text default a = Config.text default b := by
  rcases h with rfl | ⟨es, fs, rfl, rfl⟩ <;> rfl

theorem texts (h : Alike a b) (default : List (List Text.Letter)) :
    Config.texts default a = Config.texts default b := by
  rcases h with rfl | ⟨es, fs, rfl, rfl⟩ <;> rfl

theorem timeout (h : Alike a b) : Config.timeout a = Config.timeout b := by
  rcases h with rfl | ⟨es, fs, rfl, rfl⟩ <;> rfl

theorem switch (h : Alike a b) : Config.switch a = Config.switch b := by
  rcases h with rfl | ⟨es, fs, rfl, rfl⟩ <;> rfl

end Alike

/-! ### Layers -/

/-- The value in the strongest of several layers that has one. -/
def strongest? (value? : Layer → Option Value) (ls : List Layer) : Option Value :=
  ls.reverse.findSome? value?

theorem strongest?_snoc (value? : Layer → Option Value) (ls : List Layer) (l : Layer) :
    strongest? value? (ls ++ [l]) = (value? l).or (strongest? value? ls) := by
  simp only [strongest?, List.reverse_append, List.reverse_singleton, List.singleton_append,
    List.findSome?_cons]
  cases value? l <;> rfl

theorem mergeLayers_snoc (ls : List Layer) (l : Layer) :
    mergeLayers (ls ++ [l]) = Entries.over (mergeLayers ls) l.entries := by
  simp [mergeLayers]

namespace Layer

/-- A layer is a mapping in which every mapping has each of its keys once. -/
def Proper (l : Layer) : Prop := (Value.map l.entries).Proper

/-- A section is left out in a layer, or is a mapping. -/
def Sectioned (l : Layer) (name : String) : Prop :=
  ∀ v, l.entries.field? name = some v → v.isMap = true

/-- The value of a name in a layer. -/
def value? (name : String) (l : Layer) : Option Value := l.entries.field? name

/-- The value of a name in a section of a layer. -/
def inSection? (section_ name : String) (l : Layer) : Option Value :=
  (sectionEntries l.entries section_).field? name

end Layer

variable {ls : List Layer}

/-- The value of a name in all layers is that of the strongest layer that has the name. -/
theorem alike_field?_mergeLayers (h : ∀ l ∈ ls, l.Proper) (name : String) :
    Alike ((mergeLayers ls).field? name) (strongest? (Layer.value? name) ls) := by
  induction ls using List.reverseRecOn with
  | nil => exact Or.inl rfl
  | append_singleton ls l ih =>
    have hl : l.Proper := h l (by simp)
    rw [mergeLayers_snoc, strongest?_snoc, Entries.field?_over hl.keys, Layer.value?]
    cases l.entries.field? name with
    | none => exact ih fun m hm => h m (by simp [hm])
    | some v => exact .of_over _ v

/-- A section that is laid over another one, or over nothing. -/
theorem alike_field?_section (weaker : Entries) {stronger : Entries}
    (h : (Value.map stronger).Proper) {section_ : String}
    (hsection : ∀ v, stronger.field? section_ = some v → v.isMap = true)
    (name : String) :
    Alike ((sectionEntries (Entries.over weaker stronger) section_).field? name)
      (((sectionEntries stronger section_).field? name).or
        ((sectionEntries weaker section_).field? name)) := by
  simp only [sectionEntries, Entries.field?_over h.keys]
  cases hstronger : stronger.field? section_ with
  | none => exact Or.inl rfl
  | some v =>
    obtain ⟨es, rfl⟩ := Value.isMap_iff.mp (hsection v hstronger)
    have hes : es.Pairwise fun e f => e.1.sameKey f.1 = false := (h.get? hstronger).keys
    have halone : Alike (es.field? name) ((es.field? name).or (Entries.field? [] name)) :=
      Or.inl (by simp)
    cases weaker.field? section_ with
    | none => simpa [Value.over, Value.entries] using halone
    | some w =>
      cases hw : w.isMap with
      | false =>
        simp only [Value.over_of_not_isMap hw, Value.entries_of_not_isMap hw]
        exact halone
      | true =>
        obtain ⟨ws, rfl⟩ := Value.isMap_iff.mp hw
        simp only [Value.over, Value.entries, Entries.field?_over hes]
        cases es.field? name with
        | none => exact Or.inl rfl
        | some v => exact .of_over _ v

/-- The value of a name in a section of all layers is that of the strongest layer that has the name
in this section, as long as the section is nowhere another value. -/
theorem alike_section_mergeLayers (h : ∀ l ∈ ls, l.Proper) {section_ : String}
    (hsection : ∀ l ∈ ls, l.Sectioned section_) (name : String) :
    Alike ((sectionEntries (mergeLayers ls) section_).field? name)
      (strongest? (Layer.inSection? section_ name) ls) := by
  induction ls using List.reverseRecOn with
  | nil => exact Or.inl rfl
  | append_singleton ls l ih =>
    rw [mergeLayers_snoc, strongest?_snoc]
    have hlast := alike_field?_section (mergeLayers ls) (h l (by simp)) (hsection l (by simp)) name
    exact hlast.trans
      ((ih (fun m hm => h m (by simp [hm])) fun m hm => hsection m (by simp [hm])).or _)

end Config

end ProjectLint
