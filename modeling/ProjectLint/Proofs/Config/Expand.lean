import Mathlib.Data.List.Forall2
import ProjectLint.Config.Expand
import ProjectLint.Proofs.Config.Reference
import ProjectLint.Proofs.Config.Value

/-!
# The references in a configuration

The references in a configuration are those in its texts, at any depth of lists and of the values of
mappings. When they are replaced a configuration keeps its shape: its lists keep their lengths, its
mappings keep their keys and the order of these, and every other value stays as it is, also a pair
or a set with texts in it.

## Main definitions

* `Value.Becomes`: what becomes of a value, and what is recorded on the way.
* `Value.texts`, `Value.references`: the texts in a value, and the references in them, in order.
* `Value.Encodable`: the name of every reference in a value can be handed to the system.
* `Value.replaced`: a value with its references replaced.

## Main results

* `Value.value_expand`: what the expansion of a value comes to.
* `Value.run_expand`: what it comes to if all names can be handed to the system.
* `Config.expand_replaces_references`: how references are replaced.
* `Config.not_forall_replaced`: where they are not.
-/

namespace ProjectLint

open Config Log Text

/-! ### Texts in a value -/

theorem Entries.sizeOf_snd_lt {es : Entries} {e : Value × Value} (he : e ∈ es) :
    sizeOf e.2 < 1 + sizeOf es := by
  have hentry := List.sizeOf_lt_of_mem he
  have hvalue : sizeOf e.2 < sizeOf e := by
    obtain ⟨key, value⟩ := e
    change sizeOf value < 1 + sizeOf key + sizeOf value
    omega
  omega

namespace Value

/-- What holds of a list if it holds of all its items, of a mapping if it holds of all values in it,
and of all other values, holds of every value. -/
theorem nested_induction {motive : Value → Prop}
    (list : ∀ items, (∀ v ∈ items, motive v) → motive (.list items))
    (map : ∀ es : Entries, (∀ e ∈ es, motive e.2) → motive (.map es))
    (other : ∀ v : Value, (∀ items, v ≠ .list items) → v.isMap = false → motive v) (v : Value) :
    motive v :=
  match v with
  | .list items => list items fun v _ => nested_induction list map other v
  | .map es => map es fun e he =>
    have := Entries.sizeOf_snd_lt he
    nested_induction list map other e.2
  | .null | .bool _ | .int _ | .float _ | .str _ | .illFormed _ | .bytes _ | .date _ | .moment _
  | .pair _ _ | .set _ => other _ (by simp) rfl
termination_by sizeOf v

/-- The texts in a value, in order. -/
def texts : Value → List (List Letter)
  | .list items => items.flatMap texts
  | .map es => es.flatMap fun e => e.2.texts
  | v => v.letters?.toList
termination_by v => sizeOf v
decreasing_by
  · decreasing_tactic
  · next he =>
    rw [map.sizeOf_spec]
    exact Entries.sizeOf_snd_lt he

theorem texts_of_other {v : Value} (hlist : ∀ items, v ≠ .list items) (hmap : v.isMap = false) :
    v.texts = v.letters?.toList := by
  cases v <;> simp_all [texts, isMap]

/-- The references in a value, in order. -/
def references (v : Value) : List Reference := v.texts.flatMap Config.references

/-- The name of every reference in a value can be handed to the system. -/
def Encodable (v : Value) : Prop := ∀ r ∈ v.references, r.Encodable

theorem references_list (items : List Value) :
    (Value.list items).references = items.flatMap references := by
  rw [references, texts, List.flatMap_assoc]
  rfl

theorem references_map (es : Entries) :
    (Value.map es).references = es.flatMap fun e => e.2.references := by
  rw [references, texts, List.flatMap_assoc]
  rfl

theorem texts_of_letters? {v : Value} {ls : List Letter} (h : v.letters? = some ls) :
    v.texts = [ls] := by
  cases v <;> simp_all [texts, letters?]

theorem references_of_letters? {v : Value} {ls : List Letter} (h : v.letters? = some ls) :
    v.references = Config.references ls := by
  simp [references, texts_of_letters? h]

theorem encodable_list {items : List Value} :
    (Value.list items).Encodable ↔ ∀ v ∈ items, v.Encodable := by
  simp only [Encodable, references_list, List.forall_mem_flatMap]

theorem encodable_map {es : Entries} : (Value.map es).Encodable ↔ ∀ e ∈ es, e.2.Encodable := by
  simp only [Encodable, references_map, List.forall_mem_flatMap]

end Value

/-! ### What becomes of a value -/

mutual

/-- What becomes of a value, and what is recorded on the way. A text is cut up at its references and
becomes what the cut becomes. All items of a list and all values of a mapping are looked at in
order; keys stay, and so does any other value. -/
inductive Value.Becomes (environment : Environment) : Value → Value → List Record → Prop
  | text {v u : Value} {c : Cut} {out : List Letter} {log : List Record} (hv : v.IsText c.text)
    (hc : c.Leftmost) (h : c.Becomes environment out log) (hu : u.IsText out) :
    Value.Becomes environment v u log
  | list {items items' : List Value} {log : List Record}
    (h : ItemsBecome environment items items' log) :
    Value.Becomes environment (.list items) (.list items') log
  | map {es es' : List (Value × Value)} {log : List Record}
    (h : EntriesBecome environment es es' log) :
    Value.Becomes environment (.map es) (.map es') log
  | other {v : Value} (htext : ∀ ls, ¬v.IsText ls) (hlist : ∀ items, v ≠ .list items)
    (hmap : ∀ es, v ≠ .map es) : Value.Becomes environment v v []

/-- What becomes of the items of a list. -/
inductive ItemsBecome (environment : Environment) :
    List Value → List Value → List Record → Prop
  | nil : ItemsBecome environment [] [] []
  | cons {v v' : Value} {vs vs' : List Value} {log later : List Record}
    (h : Value.Becomes environment v v' log) (hs : ItemsBecome environment vs vs' later) :
    ItemsBecome environment (v :: vs) (v' :: vs') (log ++ later)

/-- What becomes of the entries of a mapping. -/
inductive EntriesBecome (environment : Environment) :
    List (Value × Value) → List (Value × Value) → List Record → Prop
  | nil : EntriesBecome environment [] [] []
  | cons {key v v' : Value} {es es' : List (Value × Value)} {log later : List Record}
    (h : Value.Becomes environment v v' log) (hs : EntriesBecome environment es es' later) :
    EntriesBecome environment ((key, v) :: es) ((key, v') :: es') (log ++ later)

end

mutual

/-- A value with its references replaced. -/
def Value.replaced (environment : Environment) : Value → Value
  | .str s => .ofLetters (replacedText environment (Letter.ofText s))
  | .illFormed text => .ofLetters (replacedText environment text)
  | .list items => .list (replacedItems environment items)
  | .map es => .map (Entries.replaced environment es)
  | v => v

/-- Values with their references replaced. -/
def replacedItems (environment : Environment) : List Value → List Value
  | [] => []
  | v :: vs => v.replaced environment :: replacedItems environment vs

/-- Entries with the references in their values replaced. -/
def Entries.replaced (environment : Environment) : List (Value × Value) → List (Value × Value)
  | [] => []
  | (key, v) :: es => (key, v.replaced environment) :: Entries.replaced environment es

end

section

variable (environment : Environment)

theorem replacedItems_eq (vs : List Value) :
    replacedItems environment vs = vs.map (Value.replaced environment) := by
  induction vs with
  | nil => rfl
  | cons v vs ih => rw [replacedItems, ih, List.map_cons]

theorem Entries.replaced_eq (es : Entries) :
    Entries.replaced environment es = es.map fun e => (e.1, e.2.replaced environment) := by
  induction es with
  | nil => rfl
  | cons e es ih => rw [Entries.replaced, ih, List.map_cons]

theorem expandItems_eq (vs : List Value) :
    expandItems environment vs = vs.mapM (Value.expand environment) := by
  induction vs with
  | nil => rfl
  | cons v vs ih => rw [expandItems, List.mapM_cons, ih]

theorem Entries.expand_eq (es : Entries) :
    Entries.expand environment es =
      es.mapM fun e => (fun v => (e.1, v)) <$> e.2.expand environment := by
  induction es with
  | nil => rfl
  | cons e es ih =>
    rw [Entries.expand, List.mapM_cons, ih]
    simp only [bind_map_left]

namespace Value

theorem expand_of_letters? {v : Value} {ls : List Letter} (h : v.letters? = some ls) :
    v.expand environment = ofLetters <$> expandText environment ls ∧
      v.replaced environment = ofLetters (replacedText environment ls) := by
  cases v with
  | str s =>
    cases h
    exact ⟨rfl, rfl⟩
  | illFormed text =>
    cases h
    exact ⟨rfl, rfl⟩
  | _ => cases h

theorem expand_of_other {v : Value} (htext : v.letters? = none) (hlist : ∀ items, v ≠ .list items)
    (hmap : v.isMap = false) :
    v.expand environment = pure v ∧ v.replaced environment = v ∧ v.references = [] := by
  have hnone : v.references = [] := by
    rw [references, texts_of_other hlist hmap, htext]
    rfl
  cases v with
  | str s => cases htext
  | illFormed text => cases htext
  | list items => exact absurd rfl (hlist items)
  | map es => cases hmap
  | _ => exact ⟨rfl, rfl, hnone⟩

/-- A mapping stays a mapping, and so does any other value. -/
@[simp] theorem isMap_replaced (v : Value) : (v.replaced environment).isMap = v.isMap := by
  cases v <;> simp only [replaced, isMap_ofLetters] <;> rfl

end Value

/-- The first fault in several lists is the first fault of any of them. -/
theorem findSome?_flatMap {α : Type} (xs : List α) (f : α → List Reference) :
    (xs.flatMap f).findSome? Reference.fault? =
      xs.findSome? fun x => (f x).findSome? Reference.fault? := by
  rw [← List.head?_filterMap, List.filterMap_flatMap, List.head?_flatMap]
  simp only [List.head?_filterMap]

theorem Entries.value_expand_of_forall {es : Entries}
    (h : ∀ e ∈ es, (e.2.expand environment).run.value =
      orFault (e.2.references.findSome? Reference.fault?) (e.2.replaced environment)) :
    (Entries.expand environment es).run.value =
      orFault ((Value.map es).references.findSome? Reference.fault?)
        (Entries.replaced environment es) := by
  have hentry : ∀ e ∈ es, ((fun v => (e.1, v)) <$> e.2.expand environment).run.value =
      orFault (e.2.references.findSome? Reference.fault?) (e.1, e.2.replaced environment) :=
    fun e he => by rw [run_map, h e he, map_orFault]
  rw [Entries.expand_eq, value_run_mapM hentry, Value.references_map, findSome?_flatMap,
    Entries.replaced_eq]

/-- What the expansion of a value comes to: the first name that cannot be handed to the system is
the fault of the value. -/
theorem Value.value_expand (v : Value) :
    (v.expand environment).run.value =
      orFault (v.references.findSome? Reference.fault?) (v.replaced environment) := by
  induction v using nested_induction with
  | list items ih =>
    rw [Value.expand, run_map, expandItems_eq, value_run_mapM ih, map_orFault, references_list,
      findSome?_flatMap, replaced, replacedItems_eq]
  | map es ih =>
    rw [Value.expand, run_map, Entries.value_expand_of_forall environment ih, map_orFault, replaced]
  | other v hlist hmap =>
    cases htext : v.letters? with
    | none =>
      obtain ⟨hexpand, hreplaced, hnone⟩ := expand_of_other environment htext hlist hmap
      rw [hexpand, hreplaced, hnone]
      rfl
    | some ls =>
      obtain ⟨hexpand, hreplaced⟩ := expand_of_letters? environment htext
      rw [hexpand, hreplaced, references_of_letters? htext, run_map, value_expandText, map_orFault]

theorem Entries.value_expand (es : Entries) :
    (Entries.expand environment es).run.value =
      orFault ((Value.map es).references.findSome? Reference.fault?)
        (Entries.replaced environment es) :=
  value_expand_of_forall environment fun e _ => e.2.value_expand environment

theorem findSome?_fault?_eq_none_iff {v : Value} :
    v.references.findSome? Reference.fault? = none ↔ v.Encodable := by
  simp only [List.findSome?_eq_none_iff, Reference.fault?_eq_none_iff, Value.Encodable]

/-- Entries are expanded if all names in them can be handed to the system. -/
theorem Entries.value_expand_eq_ok_iff {es es' : Entries} :
    (Entries.expand environment es).run.value = .ok es' ↔
      (Value.map es).Encodable ∧ Entries.replaced environment es = es' := by
  rw [value_expand, orFault_eq_ok_iff, findSome?_fault?_eq_none_iff]

theorem Entries.value_expand_eq_error_iff {es : Entries} {f : Letter.EncodeFault} :
    (Entries.expand environment es).run.value = .error f ↔
      ∃ before r after, (Value.map es).references = before ++ r :: after ∧
        (∀ r' ∈ before, r'.Encodable) ∧ Letter.encode r.name = .error f := by
  rw [value_expand, orFault_eq_error_iff, List.findSome?_eq_some_iff]
  simp only [Reference.fault?_eq_some_iff, Reference.fault?_eq_none_iff]
  grind

/-- A value stays proper when its references are replaced. -/
theorem Value.Proper.replaced {v : Value} (h : v.Proper) : (v.replaced environment).Proper := by
  induction h with
  | @single v h =>
    refine .single ?_
    cases v with
    | str s => exact isSingle_ofLetters _
    | illFormed text => exact isSingle_ofLetters _
    | list items => cases h
    | map es => cases h
    | _ => exact h
  | list h ih =>
    rw [Value.replaced, replacedItems_eq]
    refine .list fun v hv => ?_
    obtain ⟨u, hu, rfl⟩ := List.mem_map.mp hv
    exact ih u hu
  | pair hfirst hsecond => exact .pair hfirst hsecond
  | map keys values ih =>
    rw [Value.replaced, Entries.replaced_eq]
    refine .map (List.pairwise_map.mpr keys) fun e he => ?_
    obtain ⟨f, hf, rfl⟩ := List.mem_map.mp he
    exact ih f hf

/-! ### What is recorded -/

namespace Value

/-- What is recorded about the references in a value. -/
def warnings (v : Value) : List Record := v.texts.flatMap (textWarnings environment)

theorem warnings_list (items : List Value) :
    (Value.list items).warnings environment = items.flatMap (warnings environment) := by
  rw [warnings, texts, List.flatMap_assoc]
  rfl

theorem warnings_map (es : Entries) :
    (Value.map es).warnings environment = es.flatMap fun e => e.2.warnings environment := by
  rw [warnings, texts, List.flatMap_assoc]
  rfl

theorem warnings_of_letters? {v : Value} {ls : List Letter} (h : v.letters? = some ls) :
    v.warnings environment = textWarnings environment ls := by
  simp [warnings, texts_of_letters? h]

/-- What the expansion of a value comes to if all names can be handed to the system. -/
theorem run_expand {v : Value} (h : v.Encodable) :
    (v.expand environment).run = ⟨.ok (v.replaced environment), v.warnings environment⟩ := by
  induction v using nested_induction with
  | list items ih =>
    have hitems := encodable_list.mp h
    rw [Value.expand, run_map, expandItems_eq, run_mapM_of_ok fun v hv => ih v hv (hitems v hv),
      replaced, replacedItems_eq, warnings_list]
    rfl
  | map es ih =>
    have hes := encodable_map.mp h
    have hentry : ∀ e ∈ es, ((fun v => (e.1, v)) <$> e.2.expand environment).run =
        ⟨.ok (e.1, e.2.replaced environment), e.2.warnings environment⟩ := fun e he => by
      rw [run_map, ih e he (hes e he)]
      rfl
    rw [Value.expand, run_map, Entries.expand_eq, run_mapM_of_ok hentry, replaced,
      Entries.replaced_eq, warnings_map]
    rfl
  | other v hlist hmap =>
    cases htext : v.letters? with
    | none =>
      obtain ⟨hexpand, hreplaced, -⟩ := expand_of_other environment htext hlist hmap
      rw [hexpand, hreplaced, warnings, texts_of_other hlist hmap, htext]
      rfl
    | some ls =>
      obtain ⟨hexpand, hreplaced⟩ := expand_of_letters? environment htext
      have hnames : ∀ r ∈ Config.references ls, r.Encodable := by
        rwa [Encodable, references_of_letters? htext] at h
      rw [hexpand, hreplaced, warnings_of_letters? environment htext, run_map,
        run_expandText environment hnames]
      rfl

theorem itemsBecome_of_forall {items : List Value}
    (h : ∀ v ∈ items, v.Becomes environment (v.replaced environment) (v.warnings environment)) :
    ItemsBecome environment items (replacedItems environment items)
      (items.flatMap (warnings environment)) := by
  induction items with
  | nil => exact .nil
  | cons v vs ih =>
    obtain ⟨hv, hvs⟩ := List.forall_mem_cons.mp h
    rw [replacedItems, List.flatMap_cons]
    exact .cons hv (ih hvs)

theorem entriesBecome_of_forall {es : Entries}
    (h : ∀ e ∈ es,
      e.2.Becomes environment (e.2.replaced environment) (e.2.warnings environment)) :
    EntriesBecome environment es (Entries.replaced environment es)
      (es.flatMap fun e => e.2.warnings environment) := by
  induction es with
  | nil => exact .nil
  | cons e es ih =>
    obtain ⟨he, hes⟩ := List.forall_mem_cons.mp h
    rw [Entries.replaced, List.flatMap_cons]
    exact .cons he (ih hes)

/-- **What becomes of a value.** -/
theorem becomes {v : Value} (h : v.Encodable) :
    v.Becomes environment (v.replaced environment) (v.warnings environment) := by
  induction v using nested_induction with
  | list items ih =>
    have hitems := encodable_list.mp h
    rw [replaced, warnings_list]
    exact .list (itemsBecome_of_forall environment fun v hv => ih v hv (hitems v hv))
  | map es ih =>
    have hes := encodable_map.mp h
    rw [replaced, warnings_map]
    exact .map (entriesBecome_of_forall environment fun e he => ih e he (hes e he))
  | other v hlist hmap =>
    cases htext : v.letters? with
    | none =>
      obtain ⟨-, hreplaced, -⟩ := expand_of_other environment htext hlist hmap
      have hnone : v.warnings environment = [] := by
        rw [warnings, texts_of_other hlist hmap, htext]
        rfl
      rw [hreplaced, hnone]
      refine .other (fun ls hls => ?_) hlist fun es hes => ?_
      · rw [isText_iff, htext] at hls
        cases hls
      · rw [hes] at hmap
        cases hmap
    | some ls =>
      obtain ⟨-, hreplaced⟩ := expand_of_letters? environment htext
      obtain ⟨c, ⟨rfl, hleftmost⟩, -⟩ := existsUnique_leftmost ls
      have hnames : ∀ r ∈ c.references, r.Encodable := by
        rwa [Encodable, references_of_letters? htext, Cut.references_text hleftmost] at h
      rw [hreplaced, warnings_of_letters? environment htext]
      exact .text (isText_iff.mpr htext) hleftmost
        (becomes_of_leftmost environment hleftmost hnames)
        (isText_ofLetters _)

end Value

end

namespace Config

/-- **References are replaced in one pass.** Every text is cut up at its references in one way, such
that each reference starts at the first place, after the end of the one before it, where any
reference starts. If the names of all references can be handed to the system, the text becomes what
the cut becomes: each reference is replaced by the value of its variable if this is set, else by its
default, and by nothing without either. Each reference of the last kind is told in one warning, and
the warnings are in order. In any other value this is done to each text that lists and mappings lead
to, and everything else is kept. -/
theorem expand_replaces_references (environment : Environment) :
    (∀ ls : List Letter, ∃ c : Cut, (c.text = ls ∧ c.Leftmost) ∧
      (∀ c' : Cut, c'.text = ls → c'.Leftmost → c' = c) ∧
      ((∀ r ∈ c.references, r.Encodable) →
        ∃ out log, (expandText environment ls).run = ⟨.ok out, log⟩ ∧
          c.Becomes environment out log)) ∧
    ∀ v : Value, v.Encodable →
      ∃ u log, (v.expand environment).run = ⟨.ok u, log⟩ ∧ v.Becomes environment u log := by
  refine ⟨fun ls => ?_, fun v h => ⟨_, _, v.run_expand environment h, v.becomes environment h⟩⟩
  obtain ⟨c, ⟨rfl, hleftmost⟩, hunique⟩ := existsUnique_leftmost ls
  refine ⟨c, ⟨rfl, hleftmost⟩, fun c' htext h => hunique c' ⟨htext, h⟩, fun hnames => ?_⟩
  refine ⟨_, _, run_expandText environment ?_, becomes_of_leftmost environment hleftmost hnames⟩
  rwa [Cut.references_text hleftmost]

/-- A variable that is set, one that is empty, a default that is not looked at again, and a variable
that is not set. -/
theorem expand_replaces_in_list :
    let environment : Environment := .set (.set .empty "X" "v") "Y" ""
    let written := "$\x7bX\x7d-$\x7bY:-d\x7d$\x7bZ:-$\x7bX\x7d$\x7bW\x7d"
    let v : Value := .map [(.str "a", .list [.str written, .int 3])]
    (expandText environment (Letter.ofText written)).run.value = .ok (Letter.ofText "v-$\x7bX") ∧
      v.Encodable ∧
      ∃ u log, (v.expand environment).run = ⟨.ok u, log⟩ ∧ v.Becomes environment u log := by
  intro environment written v
  have hreferences : v.references =
      [⟨[.char 'X'], none⟩, ⟨[.char 'Y'], some [.char 'd']⟩,
        ⟨[.char 'Z'], some (Letter.ofText "$\x7bX")⟩, ⟨[.char 'W'], none⟩] := by
    simp only [v, Value.references, Value.texts, Value.letters?, List.flatMap_cons,
      List.flatMap_nil]
    decide +kernel
  have hencodable : v.Encodable := by
    rw [Value.Encodable, hreferences]
    decide
  exact ⟨by decide +kernel, hencodable,
    (expand_replaces_references environment).2 v hencodable⟩

/-- **Not every reference is replaced.** A text in a pair is kept as it is, and a name with a half
of a surrogate pair cannot be looked up. -/
theorem not_forall_replaced :
    (¬∀ (environment : Environment) (first second : String) (out : List Letter),
      (expandText environment (Letter.ofText second)).run.value = .ok out →
        ((Value.pair (.str first) (.str second)).expand environment).run.value =
          .ok (.pair (.str first) (.ofLetters out))) ∧
    ¬∀ (environment : Environment) (ls : List Letter),
      ∃ out, (expandText environment ls).run.value = .ok out := by
  constructor
  · intro h
    let environment : Environment := .set .empty "X" "n"
    have hout : (expandText environment (Letter.ofText "$\x7bX\x7d")).run.value =
        .ok (Letter.ofText "n") := by decide +kernel
    have hpair := h environment "b" "$\x7bX\x7d" _ hout
    have hkept : ((Value.pair (.str "b") (.str "$\x7bX\x7d")).expand environment).run.value =
        .ok (.pair (.str "b") (.str "$\x7bX\x7d")) := rfl
    rw [hkept, Letter.ofText, Value.ofLetters_ofChars, String.ofList_toList] at hpair
    simp only [Except.ok.injEq, Value.pair.injEq, Value.str.injEq] at hpair
    exact absurd hpair.2 (by decide)
  · intro h
    obtain ⟨out, hout⟩ := h .empty
      [.char '$', .char '\x7b', .half 0xd800, .char '\x7d']
    have hnone : (expandText .empty
        [.char '$', .char '\x7b', .half 0xd800, .char '\x7d']).run.value.toOption = none := by
      decide +kernel
    rw [hout] at hnone
    cases hnone

end Config

end ProjectLint
