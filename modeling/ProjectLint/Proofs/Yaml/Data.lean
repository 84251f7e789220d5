import ProjectLint.Proofs.Config.Value
import ProjectLint.Proofs.Fallible
import ProjectLint.Yaml.Data.OfDocument

/-!
# The mappings of a document

However often a key is written in a mapping, and wherever it comes from, it is one key of the data.
Nodes become data in steps that share a state. Each step keeps what is known of the data that were
made before, and so a step has to be looked at only once, by itself.

## Main definitions

* `Yaml.Distinct`: keys that are no collections, each of them once.
* `Yaml.Collection.Sound`: what a collection may hold.
* `Yaml.Builder.Sound`: all that has been made is sound.
* `Yaml.Builder.Makes`: a step keeps this, and what it makes is as it should be.

## Main results

* `Yaml.soundEntries_collect`: entries that are collected have distinct keys.
* `Yaml.Builder.makes_fillAll`: all collections are filled soundly.
* `Yaml.proper_of_read`: the value of a document is proper.
-/

namespace ProjectLint.Yaml

/-! ### Single values -/

/-- A datum that is no collection is a value without parts. -/
def Datum.Plain : Datum → Prop
  | single v _ => v.isSingle = true
  | collection _ => True

theorem isSingle_timestampValue {text : List Char} {v : Value} (h : timestampValue text = .ok v) :
    v.isSingle = true := by
  unfold timestampValue at h
  split at h
  · cases h
  · obtain ⟨_, -, h⟩ := bind_eq_ok_iff.mp h
    cases h
    rfl
  · obtain ⟨_, -, h⟩ := bind_eq_ok_iff.mp h
    obtain ⟨_, -, h⟩ := bind_eq_ok_iff.mp h
    obtain ⟨_, -, h⟩ := bind_eq_ok_iff.mp h
    cases h
    rfl

theorem isSingle_binaryValue {text : List Char} {v : Value} (h : binaryValue text = .ok v) :
    v.isSingle = true := by
  unfold binaryValue at h
  split at h
  · split at h <;> cases h
    rfl
  · cases h

/-- A scalar has a value without parts. -/
theorem isSingle_scalarValue {text : List Text.Letter} {kind : Kind} {v : Value}
    (h : scalarValue text kind = .ok v) : v.isSingle = true := by
  cases kind with
  | bool | int | float =>
    obtain ⟨_, -, rfl⟩ := map_eq_ok_iff.mp h
    rfl
  | binary => exact isSingle_binaryValue h
  | timestamp => exact isSingle_timestampValue h
  | str => cases h; exact Value.isSingle_ofLetters text
  | _ => cases h <;> rfl

theorem plain_of_single {ns : Nodes} {id : NodeId} {d : Datum} (h : Builder.single ns id = .ok d) :
    d.Plain := by
  unfold Builder.single at h
  split at h
  · cases h
  · cases h
  · cases h
  · obtain ⟨text, -, h⟩ := bind_eq_ok_iff.mp h
    by_cases hdate : ns.kind id = .timestamp ∧ ns[id]?.any Node.isMapping
    · rw [if_pos hdate] at h
      cases h
    · rw [if_neg hdate] at h
      obtain ⟨v, hv, h⟩ := bind_eq_ok_iff.mp h
      cases h
      exact isSingle_scalarValue hv

/-! ### Entries that are collected -/

/-- Keys that are no collections, each of them once. -/
structure Distinct (keys : List Datum) : Prop where
  single : ∀ k ∈ keys, k.isCollection = false
  pairwise : keys.Pairwise fun k l => k.sameKey l = false

/-- A new key is put at the end; an old one stays as it is. -/
theorem map_fst_insertEntry (entries : List (Datum × Datum)) (key d : Datum) :
    (insertEntry entries key d).map (·.1) =
      if (entries.map (·.1)).any (·.sameKey key) then entries.map (·.1)
      else entries.map (·.1) ++ [key] := by
  induction entries with
  | nil => rfl
  | cons e entries ih =>
    by_cases h : e.1.sameKey key = true
    · simp [insertEntry, h]
    · rw [insertEntry, if_neg h, List.map_cons, ih]
      simp only [List.map_cons, List.any_cons, h, Bool.false_or]
      split <;> rfl

theorem mem_insertEntry {entries : List (Datum × Datum)} {key d : Datum} {e : Datum × Datum}
    (h : e ∈ insertEntry entries key d) : e.2 = d ∨ e ∈ entries := by
  induction entries with
  | nil => simp_all [insertEntry]
  | cons f entries ih =>
    unfold insertEntry at h
    split at h
    · rcases List.mem_cons.mp h with rfl | h
      · exact Or.inl rfl
      · exact Or.inr (List.mem_cons_of_mem _ h)
    · rcases List.mem_cons.mp h with rfl | h
      · exact Or.inr List.mem_cons_self
      · exact (ih h).imp_right (List.mem_cons_of_mem _)

/-- What a mapping may hold: distinct keys, and single values that are none of their collections. -/
structure SoundEntries (entries : List (Datum × Datum)) : Prop where
  keys : Distinct (entries.map (·.1))
  values : ∀ e ∈ entries, e.2.Plain

theorem SoundEntries.insertEntry {entries : List (Datum × Datum)} {key d : Datum}
    (h : SoundEntries entries) (hkey : key.isCollection = false) (hd : d.Plain) :
    SoundEntries (insertEntry entries key d) := by
  refine ⟨?_, fun e he => ?_⟩
  · rw [map_fst_insertEntry]
    split
    · exact h.keys
    · next hnew =>
      have hother : ∀ k ∈ entries.map (·.1), k.sameKey key = false := by simpa using hnew
      refine ⟨?_, List.pairwise_append.mpr ⟨h.keys.pairwise, List.pairwise_singleton _ _, ?_⟩⟩
      · intro k hk
        rcases List.mem_append.mp hk with hk | hk
        · exact h.keys.single k hk
        · rwa [List.mem_singleton.mp hk]
      · intro k hk l hl
        rw [List.mem_singleton.mp hl]
        exact hother k hk
  · rcases mem_insertEntry he with rfl | he
    · exact hd
    · exact h.values e he

/-- Entries that are collected have distinct keys. -/
theorem soundEntries_collect {entries : List (Datum × Datum)}
    (h : ∀ e ∈ entries, e.1.isCollection = false ∧ e.2.Plain) :
    SoundEntries (collect entries) := by
  have hfrom (before : List (Datum × Datum)) (hbefore : SoundEntries before) :
      SoundEntries (entries.foldl (fun es e => insertEntry es e.1 e.2) before) := by
    induction entries generalizing before with
    | nil => exact hbefore
    | cons e entries ih =>
      obtain ⟨he, hentries⟩ := List.forall_mem_cons.mp h
      exact ih hentries _ (hbefore.insertEntry he.1 he.2)
  exact hfrom [] ⟨⟨by simp, .nil⟩, by simp⟩

/-! ### Steps -/

/-- What a collection may hold. -/
def Collection.Sound : Collection → Prop
  | list items => ∀ d ∈ items, d.Plain
  | pairs items => ∀ p ∈ items, p.1.Plain ∧ p.2.Plain
  | set _ => True
  | map entries => SoundEntries entries

namespace Builder

/-- All that has been made is sound. -/
structure Sound (s : Builder) : Prop where
  made : ∀ (id : NodeId) (d : Datum), s.made[id]? = some (some d) → d.Plain
  collections : ∀ (id : NodeId) (c : Collection), s.collections[id]? = some (some c) → c.Sound

theorem sound_start (ns : Nodes) : (start ns).Sound where
  made := by simp [start, Array.getElem?_replicate]
  collections := by simp [start, Array.getElem?_replicate]

theorem Sound.setMade {s : Builder} (h : s.Sound) (id : NodeId) {d : Datum} (hd : d.Plain)
    (waiting : List NodeId) :
    { s with made := s.made.setIfInBounds id (some d), waiting := waiting }.Sound := by
  refine ⟨fun id' d' h' => ?_, h.collections⟩
  rw [Array.getElem?_setIfInBounds] at h'
  split at h'
  · split at h' <;> simp_all
  · exact h.made id' d' h'

theorem Sound.setCollection {s : Builder} (h : s.Sound) (id : NodeId) {c : Collection}
    (hc : c.Sound) :
    { s with collections := s.collections.setIfInBounds id (some c) }.Sound := by
  refine ⟨h.made, fun id' c' h' => ?_⟩
  rw [Array.getElem?_setIfInBounds] at h'
  split at h'
  · split at h' <;> simp_all
  · exact h.collections id' c' h'

variable {α β : Type}

/-- A step keeps what has been made sound, and what it makes is as it should be. -/
def Makes (m : Build α) (R : α → Prop) : Prop :=
  ∀ s a s', s.Sound → m.run s = .ok (a, s') → s'.Sound ∧ R a

namespace Makes

variable {m : Build α} {f : α → Build β} {Q : α → Prop} {R : β → Prop}

theorem pure {b : β} (h : R b) : Makes (pure b) R := by
  rintro s _ _ hs ⟨⟩
  exact ⟨hs, h⟩

theorem throw (e : Fault) : Makes (throw e) R := by
  rintro s _ _ _ ⟨⟩

theorem lift {x : Except Fault β} (h : ∀ b, x = .ok b → R b) : Makes (liftM x) R := by
  intro s b s' hs hb
  cases x with
  | error e => simp at hb
  | ok b' =>
    obtain ⟨rfl, rfl⟩ : b' = b ∧ s = s' := by simpa using hb
    exact ⟨hs, h b' rfl⟩

theorem get : Makes get Builder.Sound := by
  rintro s _ _ hs ⟨⟩
  exact ⟨hs, hs⟩

theorem set {s : Builder} (h : s.Sound) : Makes (set s) fun _ => True := by
  rintro _ _ _ _ ⟨⟩
  exact ⟨h, trivial⟩

theorem bind (hm : Makes m Q) (hf : ∀ a, Q a → Makes (f a) R) : Makes (m >>= f) R := by
  intro s b s' hs h
  rw [StateT.run_bind] at h
  obtain ⟨⟨a, t⟩, ha, hb⟩ := bind_eq_ok_iff.mp h
  obtain ⟨ht, hQ⟩ := hm s a t hs ha
  exact hf a hQ t b s' ht hb

theorem mapM (hf : ∀ a, Makes (f a) R) (as : List α) :
    Makes (as.mapM f) fun bs => ∀ b ∈ bs, R b := by
  induction as with
  | nil => exact pure (by simp)
  | cons a as ih =>
    rw [List.mapM_cons]
    refine (hf a).bind fun b hb => ih.bind fun bs hbs => pure ?_
    exact List.forall_mem_cons.mpr ⟨hb, hbs⟩

theorem forM {f : α → Build Unit} (hf : ∀ a, Makes (f a) fun _ => True) (as : List α) :
    Makes (as.forM f) fun _ => True := by
  induction as with
  | nil => exact pure trivial
  | cons a as ih => exact (hf a).bind fun _ _ => ih

end Makes

theorem makes_datum (id : NodeId) : Makes (datum id) Datum.Plain := by
  refine Makes.get.bind fun s hs => ?_
  split
  · next d hd => exact .pure (hs.made id d (Option.join_eq_some_iff.mp hd))
  · split
    · have hwaiting := hs.setMade (d := .collection id) id trivial (id :: s.waiting)
      exact (Makes.set hwaiting).bind fun _ _ => .pure trivial
    · refine (Makes.lift fun d hd => plain_of_single hd).bind fun d hd => ?_
      exact (Makes.set (hs.setMade id hd _)).bind fun _ _ => .pure hd

/-- The key of an entry is no collection. -/
theorem makes_entry (e : NodeId × NodeId) :
    Makes (entry e) fun p => p.1.isCollection = false ∧ p.2.Plain := by
  refine (makes_datum e.1).bind fun key _ => ?_
  split
  · exact (Makes.throw (R := fun _ => False) .malformed).bind fun _ h => h.elim
  · next hkey =>
    exact (makes_datum e.2).bind fun d hd => .pure ⟨by simpa using hkey, hd⟩

theorem makes_entries (id : NodeId) : Makes (entries id) SoundEntries := by
  refine Makes.get.bind fun s hs => ?_
  split
  · exact (Makes.throw (R := fun _ => False) .malformed).bind fun _ h => h.elim
  · refine (Makes.lift (R := fun _ => True) fun _ _ => trivial).bind fun r _ => ?_
    have hset : Makes (set { s with nodes := r.2 }) fun _ => True := .set ⟨hs.made, hs.collections⟩
    exact hset.bind fun _ _ => (Makes.mapM makes_entry _).bind fun es hes =>
      .pure (soundEntries_collect hes)

theorem makes_items (id : NodeId) : Makes (items id) fun _ => True := by
  refine Makes.get.bind fun s _ => ?_
  split
  · exact .pure trivial
  · exact .throw .malformed

theorem makes_pair (id : NodeId) : Makes (pair id) fun p => p.1.Plain ∧ p.2.Plain := by
  refine Makes.get.bind fun s _ => ?_
  split
  · exact (makes_datum _).bind fun _ hfirst => (makes_datum _).bind fun _ hsecond =>
      .pure ⟨hfirst, hsecond⟩
  · exact .throw .malformed

theorem makes_contents (id : NodeId) : Makes (contents id) Collection.Sound := by
  have hpairs : Makes (do return Collection.pairs (← (← items id).mapM pair)) Collection.Sound :=
    (makes_items id).bind fun ids _ => (Makes.mapM makes_pair ids).bind fun _ h => .pure h
  refine Makes.get.bind fun s _ => ?_
  split
  · exact (makes_items id).bind fun ids _ => (Makes.mapM makes_datum ids).bind fun _ h => .pure h
  · exact hpairs
  · exact hpairs
  · exact (makes_entries id).bind fun _ _ => .pure trivial
  · exact (makes_entries id).bind fun _ h => .pure h
  · exact .throw .malformed

theorem makes_fill (id : NodeId) : Makes (fill id) fun _ => True := by
  refine (makes_contents id).bind fun c hc => ?_
  rintro s _ _ hs ⟨⟩
  exact ⟨hs.setCollection id hc, trivial⟩

/-- All collections are filled soundly. -/
theorem makes_fillAll (fuel : Nat) : Makes (fillAll fuel) fun _ => True := by
  induction fuel with
  | zero => exact .pure trivial
  | succ fuel ih =>
    refine Makes.get.bind fun s hs => ?_
    split
    · exact .pure trivial
    · have hset : Makes (set { s with waiting := [] }) fun _ => True :=
        .set ⟨hs.made, hs.collections⟩
      exact hset.bind fun _ _ => (Makes.forM makes_fill _).bind fun _ _ => ih

end Builder

/-! ### Values of documents -/

/-- Keys that are told apart are told apart as values. -/
theorem Datum.own_sameKey {k l : Datum} (hk : k.isCollection = false) (hl : l.isCollection = false)
    (h : k.sameKey l = false) : k.own.sameKey l.own = false := by
  cases k with
  | collection id => simp [isCollection] at hk
  | single v o =>
    cases l with
    | collection id => simp [isCollection] at hl
    | single w p =>
      rw [Bool.eq_false_iff] at h ⊢
      exact fun hsame => h (sameKey_single hsame o p)

theorem Distinct.pairwise_own {keys : List Datum} (h : Distinct keys) :
    (keys.map Datum.own).Pairwise fun k l => k.sameKey l = false := by
  refine List.pairwise_map.mpr (h.pairwise.imp_of_mem fun hk hl hkl => ?_)
  exact Datum.own_sameKey (h.single _ hk) (h.single _ hl) hkl

namespace Data

/-- All that a document holds is sound. -/
structure Sound (d : Data) : Prop where
  root : d.root.Plain
  holds : ∀ id, (d.holds id).Sound

/-- What is unfolded is proper, if what is unfolded inside it is. -/
theorem proper_of_unfold_succ {d : Data} (hd : d.Sound) {fuel : Nat}
    (ih : ∀ (above : List NodeId) (hidden : Bool) (x : Datum) (v : Value), x.Plain →
      d.unfold fuel above hidden x = .ok v → v.Proper)
    {above : List NodeId} {hidden : Bool} {id : NodeId} {v : Value}
    (h : d.unfold (fuel + 1) above hidden (.collection id) = .ok v) : v.Proper := by
  have hsound := hd.holds id
  rw [unfold] at h
  split at h
  · cases hidden <;> cases h
    exact .single rfl
  · split at h
    · next items hitems =>
      rw [hitems] at hsound
      obtain ⟨vs, hvs, rfl⟩ := map_eq_ok_iff.mp h
      exact .list (forall_of_mapM_eq_ok hvs fun x hx y hy => ih _ _ x y (hsound x hx) hy)
    · next items hitems =>
      rw [hitems] at hsound
      obtain ⟨vs, hvs, rfl⟩ := map_eq_ok_iff.mp h
      refine .list (forall_of_mapM_eq_ok hvs fun p hp y hy => ?_)
      obtain ⟨first, hfirst, hy⟩ := bind_eq_ok_iff.mp hy
      obtain ⟨second, hsecond, hy⟩ := bind_eq_ok_iff.mp hy
      cases hy
      exact .pair (ih _ _ _ _ (hsound p hp).1 hfirst) (ih _ _ _ _ (hsound p hp).2 hsecond)
    · cases h
      exact .single rfl
    · next entries hentries =>
      rw [hentries] at hsound
      obtain ⟨es, hes, rfl⟩ := map_eq_ok_iff.mp h
      have hkeys : es.map (·.1) = (entries.map (·.1)).map Datum.own := by
        rw [List.map_map]
        refine map_eq_map_of_mapM_eq_ok hes fun e he y hy => ?_
        obtain ⟨u, -, hy⟩ := bind_eq_ok_iff.mp hy
        cases hy
        rfl
      refine .map (List.pairwise_map.mp (hkeys ▸ hsound.keys.pairwise_own)) ?_
      refine forall_of_mapM_eq_ok hes fun e he y hy => ?_
      obtain ⟨u, hu, hy⟩ := bind_eq_ok_iff.mp hy
      cases hy
      exact ih _ _ _ _ (hsound.values e he) hu

theorem proper_of_unfold {d : Data} (hd : d.Sound) (fuel : Nat) :
    ∀ (above : List NodeId) (hidden : Bool) (x : Datum) (v : Value), x.Plain →
      d.unfold fuel above hidden x = .ok v → v.Proper := by
  induction fuel with
  | zero =>
    intro above hidden x v hx h
    cases x with
    | single w o => cases h; exact .single hx
    | collection id => cases hidden <;> cases h; exact .single rfl
  | succ fuel ih =>
    intro above hidden x v hx h
    cases x with
    | single w o => cases h; exact .single hx
    | collection id => exact proper_of_unfold_succ hd ih h

end Data

theorem sound_of_data {doc : Document} {d : Data} (h : doc.data = .ok d) : d.Sound := by
  obtain ⟨⟨root, s⟩, hrun, hdata⟩ := bind_eq_ok_iff.mp h
  cases hdata
  have hmakes : Builder.Makes (do
      let root ← Builder.datum doc.root
      Builder.fillAll (doc.nodes.size + 1)
      return root) Datum.Plain :=
    (Builder.makes_datum doc.root).bind fun root hroot =>
      (Builder.makes_fillAll _).bind fun _ _ => .pure hroot
  obtain ⟨hs, hroot⟩ := hmakes _ _ _ (Builder.sound_start doc.nodes) hrun
  refine ⟨hroot, fun id => ?_⟩
  rw [Data.holds]
  cases hc : (s.collections[id]?).join with
  | none => simp [Collection.Sound]
  | some c => exact hs.collections id c (Option.join_eq_some_iff.mp hc)

/-- The value of a document is proper. -/
theorem proper_of_read {cs : List Char} {d : Data} {v : Value} (h : read cs = .ok d)
    (hv : d.value = .ok v) : v.Proper := by
  obtain ⟨doc, hdoc, h⟩ := bind_eq_ok_iff.mp h
  cases doc with
  | none => cases h; cases hv; exact .single rfl
  | some doc =>
    have hd := sound_of_data h
    exact Data.proper_of_unfold hd _ _ _ _ _ hd.root hv

end ProjectLint.Yaml
