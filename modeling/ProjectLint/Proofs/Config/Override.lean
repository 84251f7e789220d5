import ProjectLint.Proofs.Config.Merge

/-!
# Merging at every depth

A path is a list of keys, each of which is looked up in the mapping that the keys before it lead to.
What one mapping laid over another one has at a path depends on what the two have there: the value
of the stronger one, merged with that of the weaker one if both are mappings. Where the stronger one
has nothing the weaker one shows through, unless the stronger one has another value than a mapping
on the way.

## Main definitions

* `Value.at?`: the value at a path.
* `Value.Ends`: a path leads beyond a value that is no mapping.
* `Value.Keyed`: all keys in the mappings of a value are found.

## Main results

* `Value.at?_over`, `Value.at?_over_of_ends`, `Value.at?_over_of_not_ends`: what is at a path.
* `Entries.keys_over`: the keys of a mapping laid over another one, in order.
* `Entries.over_eq_append`, `Value.Keyed.over_self`: what changes nothing.
* `Entries.over_deeply`: a mapping laid over another one overrides it at every path.
-/

namespace ProjectLint

namespace Value

/-- The value at a path. -/
def at? : Value → List Value → Option Value
  | v, [] => some v
  | .map es, key :: path => (Entries.get? es key).bind fun v => v.at? path
  | _, _ :: _ => none

/-- A path leads beyond a value that is no mapping. -/
def Ends (v : Value) (path : List Value) : Prop :=
  ∃ before after end_, path = before ++ after ∧ after ≠ [] ∧ v.at? before = some end_ ∧
    end_.isMap = false

variable {v w : Value} {weaker : Option Value} {key : Value} {path : List Value} {es : Entries}

/-! ### Paths -/

@[simp] theorem at?_nil (v : Value) : v.at? [] = some v := by
  cases v <;> rfl

@[simp] theorem at?_map_cons (es : Entries) (key : Value) (path : List Value) :
    (Value.map es).at? (key :: path) = (Entries.get? es key).bind fun v => v.at? path := rfl

theorem at?_cons_of_not_isMap (h : v.isMap = false) (key : Value) (path : List Value) :
    v.at? (key :: path) = none := by
  cases v <;> simp_all [at?, isMap]

/-- A path is followed one key after another. -/
theorem at?_cons (v key : Value) (path : List Value) :
    v.at? (key :: path) = (v.at? [key]).bind fun w => w.at? path := by
  cases v with
  | map es => simp
  | _ => rfl

theorem ends_cons_of_not_isMap (h : v.isMap = false) (key : Value) (path : List Value) :
    v.Ends (key :: path) :=
  ⟨[], key :: path, v, rfl, by simp, at?_nil v, h⟩

theorem not_ends_nil (v : Value) : ¬v.Ends [] := by
  rintro ⟨before, after, _, hpath, hafter, -⟩
  exact hafter (List.append_eq_nil_iff.mp hpath.symm).2

theorem ends_map_cons_iff :
    (Value.map es).Ends (key :: path) ↔ ∃ v, Entries.get? es key = some v ∧ v.Ends path := by
  constructor
  · rintro ⟨before, after, end_, hpath, hafter, hend, hmap⟩
    cases before with
    | nil =>
      obtain rfl : Value.map es = end_ := by simpa using hend
      simp [isMap] at hmap
    | cons key' before =>
      obtain ⟨rfl, rfl⟩ := List.cons_eq_cons.mp hpath
      obtain ⟨v, hv, hend⟩ := Option.bind_eq_some_iff.mp hend
      exact ⟨v, hv, before, after, end_, rfl, hafter, hend, hmap⟩
  · rintro ⟨v, hv, before, after, end_, rfl, hafter, hend, hmap⟩
    exact ⟨key :: before, after, end_, rfl, hafter, by simp [hv, hend], hmap⟩

theorem Proper.at? {v w : Value} {path : List Value} (h : v.Proper) (hw : v.at? path = some w) :
    w.Proper := by
  induction path generalizing v with
  | nil =>
    obtain rfl : v = w := by simpa using hw
    exact h
  | cons key path ih =>
    cases hv : v.isMap with
    | false => simp [at?_cons_of_not_isMap hv] at hw
    | true =>
      obtain ⟨es, rfl⟩ := isMap_iff.mp hv
      obtain ⟨u, hu, hw⟩ := Option.bind_eq_some_iff.mp hw
      exact ih (h.get? hu) hw

/-! ### Values laid over other values -/

theorem over_eq_self_of_not_isMap (h : v.isMap = false) (weaker : Option Value) :
    Value.over weaker v = v := by
  cases v <;> simp_all [isMap, Value.over]

@[simp] theorem over_none (v : Value) : Value.over none v = v := by
  cases v <;> simp [Value.over]

/-- What a mapping laid over another value has at a path. -/
theorem at?_over_map (hes : (Value.map es).Proper) (weaker : Option Value) (key : Value)
    (path : List Value) :
    (Value.over weaker (.map es)).at? (key :: path) = match Entries.get? es key with
      | none => weaker.bind fun w => w.at? (key :: path)
      | some v => (Value.over (weaker.bind fun w => w.at? [key]) v).at? path := by
  rcases weaker with _ | w
  · rw [over_none, at?_map_cons]
    cases Entries.get? es key <;> simp
  · cases hw : w.isMap with
    | false =>
      rw [over_of_not_isMap hw, at?_map_cons]
      cases Entries.get? es key <;> simp [at?_cons_of_not_isMap hw]
    | true =>
      obtain ⟨ws, rfl⟩ := isMap_iff.mp hw
      rw [Value.over, at?_map_cons, Entries.get?_over hes.keys]
      cases Entries.get? es key <;> simp

/-- Where the stronger value has a value, this is laid over that of the weaker one. -/
theorem at?_over (hv : v.Proper) (hw : v.at? path = some w) (weaker : Option Value) :
    (Value.over weaker v).at? path = some (Value.over (weaker.bind fun u => u.at? path) w) := by
  induction path generalizing v weaker with
  | nil =>
    obtain rfl : v = w := by simpa using hw
    simp
  | cons key path ih =>
    cases hmap : v.isMap with
    | false => simp [at?_cons_of_not_isMap hmap] at hw
    | true =>
      obtain ⟨es, rfl⟩ := isMap_iff.mp hmap
      obtain ⟨u, hu, hw⟩ := Option.bind_eq_some_iff.mp hw
      rw [at?_over_map hv, hu]
      dsimp only
      simp only [ih (hv.get? hu) hw, Option.bind_assoc, ← at?_cons]

/-- Where the stronger value has a value, and the two do not both have a mapping, the weaker one is
of no consequence. -/
theorem at?_over_of_overrides (hv : v.Proper) (hw : v.at? path = some w)
    (h : w.isMap = false ∨ ∀ u, (weaker.bind fun x => x.at? path) = some u → u.isMap = false) :
    (Value.over weaker v).at? path = some w := by
  rw [at?_over hv hw]
  rcases h with hother | hother
  · rw [over_eq_self_of_not_isMap hother]
  · cases hu : weaker.bind fun x => x.at? path with
    | none => rw [over_none]
    | some u => rw [over_of_not_isMap (hother u hu)]

/-- Where the stronger value ends before the path does there is nothing. -/
theorem at?_over_of_ends (hv : v.Proper) (h : v.Ends path) (weaker : Option Value) :
    (Value.over weaker v).at? path = none := by
  induction path generalizing v weaker with
  | nil => exact absurd h (not_ends_nil v)
  | cons key path ih =>
    cases hmap : v.isMap with
    | false => rw [over_eq_self_of_not_isMap hmap, at?_cons_of_not_isMap hmap]
    | true =>
      obtain ⟨es, rfl⟩ := isMap_iff.mp hmap
      obtain ⟨u, hu, hends⟩ := ends_map_cons_iff.mp h
      rw [at?_over_map hv, hu]
      exact ih (hv.get? hu) hends _

/-- Elsewhere the weaker value shows through. -/
theorem at?_over_of_not_ends (hv : v.Proper) (hnone : v.at? path = none) (h : ¬v.Ends path)
    (weaker : Option Value) :
    (Value.over weaker v).at? path = weaker.bind fun u => u.at? path := by
  induction path generalizing v weaker with
  | nil => simp at hnone
  | cons key path ih =>
    cases hmap : v.isMap with
    | false => exact absurd (ends_cons_of_not_isMap hmap key path) h
    | true =>
      obtain ⟨es, rfl⟩ := isMap_iff.mp hmap
      rw [at?_over_map hv]
      cases hu : Entries.get? es key with
      | none => rfl
      | some u =>
        have hrest : u.at? path = none := by simpa [hu] using hnone
        have hrestEnds : ¬u.Ends path := fun hends => h (ends_map_cons_iff.mpr ⟨u, hu, hends⟩)
        dsimp only
        simp only [ih (hv.get? hu) hrest hrestEnds, Option.bind_assoc, ← at?_cons]

end Value

namespace Entries

variable {es fs : Entries} {key value : Value}

/-! ### Keys in order -/

/-- The keys of a mapping, in order. -/
def keys (es : Entries) : List Value := es.map (·.1)

theorem set_of_get?_eq_none (h : get? es key = none) (value : Value) :
    set es key value = es ++ [(key, value)] := by
  induction es with
  | nil => rfl
  | cons e es ih =>
    obtain ⟨k, v⟩ := e
    have hk : ¬k.sameKey key = true := fun hk => by simp [hk] at h
    rw [set, if_neg hk, ih (by simpa [hk] using h), List.cons_append]

theorem keys_set_of_get?_eq_some {v : Value} (h : get? es key = some v) (value : Value) :
    keys (set es key value) = keys es := by
  induction es with
  | nil => simp at h
  | cons e es ih =>
    obtain ⟨k, u⟩ := e
    by_cases hk : k.sameKey key = true
    · rw [set, if_pos hk]
      rfl
    · rw [set, if_neg hk]
      exact congrArg (k :: ·) (ih (by simpa [hk] using h))

/-- A change to the value that is there changes nothing. -/
theorem set_of_get?_eq_some (h : get? es key = some value) : set es key value = es := by
  induction es with
  | nil => simp at h
  | cons e es ih =>
    obtain ⟨k, v⟩ := e
    by_cases hk : k.sameKey key = true
    · obtain rfl : v = value := by simpa [hk] using h
      rw [set, if_pos hk]
    · rw [set, if_neg hk, ih (by simpa [hk] using h)]

/-- The keys of a mapping laid over another one: those of the weaker one, and then those that only
the stronger one has. -/
theorem keys_over (hes : es.Pairwise fun e f => e.1.sameKey f.1 = false) (weaker : Entries) :
    keys (Entries.over weaker es) =
      keys weaker ++ (keys es).filter fun k => (get? weaker k).isNone := by
  induction es generalizing weaker with
  | nil => simp [keys]
  | cons e es ih =>
    obtain ⟨k, v⟩ := e
    obtain ⟨hk, hes⟩ := List.pairwise_cons.mp hes
    have hrest : (keys es).filter (fun k' =>
          (get? (set weaker k (Value.over (get? weaker k) v)) k').isNone) =
        (keys es).filter fun k' => (get? weaker k').isNone := by
      refine List.filter_congr fun k' hk' => ?_
      obtain ⟨f, hf, rfl⟩ := List.mem_map.mp hk'
      rw [get?_set, if_neg (by simp [hk f hf])]
    rw [Entries.over, ih hes, hrest]
    cases hweaker : get? weaker k with
    | none =>
      rw [set_of_get?_eq_none hweaker]
      simp [keys, hweaker]
    | some w =>
      rw [keys_set_of_get?_eq_some hweaker]
      simp [keys, hweaker]

/-! ### What changes nothing -/

/-- A mapping laid over one that has none of its keys comes after it. -/
theorem over_eq_append (hes : es.Pairwise fun e f => e.1.sameKey f.1 = false) {weaker : Entries}
    (h : ∀ e ∈ es, get? weaker e.1 = none) : Entries.over weaker es = weaker ++ es := by
  induction es generalizing weaker with
  | nil => simp
  | cons e es ih =>
    obtain ⟨k, v⟩ := e
    obtain ⟨hk, hes⟩ := List.pairwise_cons.mp hes
    obtain ⟨hnone, h⟩ := List.forall_mem_cons.mp h
    have hrest : ∀ f ∈ es, get? (weaker ++ [(k, v)]) f.1 = none := fun f hf => by
      rw [← set_of_get?_eq_none hnone, get?_set, if_neg (by simp [hk f hf]), h f hf]
    rw [Entries.over, hnone, Value.over_none, set_of_get?_eq_none hnone, ih hes hrest,
      List.append_assoc, List.singleton_append]

end Entries

/-- Every key in the mappings of a value is found: it is the same key as itself. -/
inductive Value.Keyed : Value → Prop
  | other {v : Value} (h : v.isMap = false) : Keyed v
  | map {es : Entries} (keys : ∀ e ∈ es, e.1.sameKey e.1 = true) (values : ∀ e ∈ es, Keyed e.2) :
    Keyed (.map es)

namespace Entries

variable {es : Entries}

/-- Every entry is found by its key, if the keys differ and are the same as themselves. -/
theorem get?_of_mem (hes : es.Pairwise fun e f => e.1.sameKey f.1 = false)
    (h : ∀ e ∈ es, e.1.sameKey e.1 = true) {e : Value × Value} (he : e ∈ es) :
    get? es e.1 = some e.2 := by
  induction es with
  | nil => simp at he
  | cons f es ih =>
    obtain ⟨hf, hrest⟩ := List.pairwise_cons.mp hes
    obtain ⟨hself, hkeys⟩ := List.forall_mem_cons.mp h
    obtain ⟨k, v⟩ := f
    rcases List.mem_cons.mp he with rfl | he
    · simp [hself]
    · simp [hf e he, ih hrest hkeys he]

/-- Entries that are there already, with values that do not change when they are merged, change
nothing. -/
theorem over_eq_self {stronger : Entries} (hfound : ∀ e ∈ stronger, get? es e.1 = some e.2)
    (hsame : ∀ e ∈ stronger, Value.over (some e.2) e.2 = e.2) : Entries.over es stronger = es := by
  induction stronger with
  | nil => simp
  | cons e stronger ih =>
    obtain ⟨k, v⟩ := e
    obtain ⟨hk, hfound⟩ := List.forall_mem_cons.mp hfound
    obtain ⟨hv, hsame⟩ := List.forall_mem_cons.mp hsame
    rw [Entries.over, hk, hv, set_of_get?_eq_some hk, ih hfound hsame]

end Entries

/-- A value laid over itself changes nothing. -/
theorem Value.Keyed.over_self {v : Value} (h : v.Keyed) (hv : v.Proper) :
    Value.over (some v) v = v := by
  induction h with
  | other h => exact Value.over_eq_self_of_not_isMap h _
  | @map es keys values ih =>
    cases hv with
    | single h => simp [Value.isSingle] at h
    | map distinct proper =>
      rw [Value.over, Entries.over_eq_self (fun e he => Entries.get?_of_mem distinct keys he)
        fun e he => ih e he (proper e he)]

/-- **A mapping laid over another one overrides it at every path.** The stronger one has each of its
keys once. Where it has a value, and the two do not both have a mapping, the result has its value.
Where both have a mapping the result has the one laid over the other, with the keys of the weaker
one as they are, followed by the new ones of the stronger one. Where the stronger one has nothing
the result has what the weaker one has, unless the stronger one ends on the way, and nothing if it
does. So a mapping without entries on either side changes nothing, and neither does the mapping
itself, if all its keys are found. -/
theorem Entries.over_deeply (weaker stronger : Entries) (h : (Value.map stronger).Proper) :
    let merged := Value.map (Entries.over weaker stronger)
    (∀ path v, (Value.map stronger).at? path = some v →
      (v.isMap = false ∨ ∀ w, (Value.map weaker).at? path = some w → w.isMap = false) →
      merged.at? path = some v) ∧
    (∀ path ws vs, (Value.map weaker).at? path = some (.map ws) →
      (Value.map stronger).at? path = some (.map vs) →
      merged.at? path = some (.map (Entries.over ws vs)) ∧
        keys (Entries.over ws vs) = keys ws ++ (keys vs).filter fun k => (get? ws k).isNone) ∧
    (∀ path, (Value.map stronger).at? path = none →
      ((Value.map stronger).Ends path → merged.at? path = none) ∧
      (¬(Value.map stronger).Ends path → merged.at? path = (Value.map weaker).at? path)) ∧
    Entries.over weaker [] = weaker ∧ Entries.over [] stronger = stronger ∧
    ((Value.map stronger).Keyed → Entries.over stronger stronger = stronger) := by
  intro merged
  have hmerged : merged = Value.over (some (.map weaker)) (.map stronger) := by
    rw [Value.over]
  refine ⟨fun path v hv hcases => ?_, fun path ws vs hws hvs => ⟨?_, ?_⟩,
    fun path hnone => ⟨?_, ?_⟩,
    Entries.nil_over weaker, Entries.over_eq_append h.keys (by simp), fun hkeyed => ?_⟩
  · rw [hmerged, Value.at?_over h hv, Option.bind_some]
    rcases hcases with hmap | hother
    · rw [Value.over_eq_self_of_not_isMap hmap]
    · cases hw : (Value.map weaker).at? path with
      | none => rw [Value.over_none]
      | some w => rw [Value.over_of_not_isMap (hother w hw)]
  · rw [hmerged, Value.at?_over h hvs, Option.bind_some, hws, Value.over]
  · exact Entries.keys_over (h.at? hvs).keys ws
  · rw [hmerged]
    exact fun hends => Value.at?_over_of_ends h hends _
  · rw [hmerged]
    exact fun hends => Value.at?_over_of_not_ends h hnone hends _
  · simpa [Value.over] using hkeyed.over_self h

/-- A truth value, a whole number and a fraction are one key, which keeps its first spelling. -/
theorem Entries.over_deeply_equal_keys :
    let weaker : Entries :=
      [(.int 1, .map [(.str "a", .int 1), (.str "b", .int 2)]), (.str "c", .null)]
    let stronger : Entries := [(.bool true, .map [(.str "d", .int 3), (.str "b", .int 4)])]
    let one : Value := .float (.finite false (2 ^ 52) (-52))
    (Value.map stronger).Proper ∧ (Value.map stronger).Keyed ∧
      keys (Entries.over weaker stronger) = [.int 1, .str "c"] ∧
      (Value.map (Entries.over weaker stronger)).at? [one, .str "b"] = some (.int 4) ∧
      (∃ ms, (Value.map (Entries.over weaker stronger)).at? [one] = some (.map ms) ∧
        keys ms = [.str "a", .str "b", .str "d"]) ∧
      Entries.over stronger stronger = stronger := by
  intro weaker stronger one
  let inner : Entries := [(.str "d", .int 3), (.str "b", .int 4)]
  have hproper : (Value.map stronger).Proper := by
    have hinner : (Value.map inner).Proper := .map (by simp [inner]) <| by
      simpa [inner] using ⟨.single rfl, .single rfl⟩
    exact .map (List.pairwise_singleton _ _) (by simpa [stronger] using hinner)
  have hkeyed : (Value.map stronger).Keyed := by
    have hinner : (Value.map inner).Keyed := .map (by simp [inner]) <| by
      simpa [inner] using ⟨.other rfl, .other rfl⟩
    exact .map (by simp [stronger, Value.sameKey, Value.whole?]) (by simpa [stronger] using hinner)
  obtain ⟨hvalue, hboth, -, -, -, hself⟩ := Entries.over_deeply weaker stronger hproper
  exact ⟨hproper, hkeyed, (hboth [] _ _ rfl rfl).2, hvalue _ _ rfl (.inl rfl),
    ⟨_, hboth [one] _ _ rfl rfl⟩, hself hkeyed⟩

end ProjectLint
