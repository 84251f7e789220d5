import Mathlib.Data.List.TakeWhile
import ProjectLint.Config.Reference
import ProjectLint.Proofs.Fallible
import ProjectLint.Proofs.Text.Letter

/-!
# The references in a text

A text is read from left to right. At each place a reference starts or does not, and at most one
reference starts there. So there is one way to cut a text up at its references such that each of
them starts at the first place, after the end of the one before it, where any reference starts. A
place where the beginning of a reference is not continued as one hides nothing that comes after it.

## Main definitions

* `Config.Starts`: a reference starts at the front of a text.
* `Config.Cut`: a text that is cut up at references, and `Cut.Leftmost`, the way in which it is cut
  by a reader.
* `Reference.Becomes`: what is put in the place of a reference, and what is recorded about it.
* `Cut.Becomes`: what becomes of a text that is cut up.
* `Config.references`, `Config.replacedText`: the references in a text, and the text without them.

## Main results

* `Reference.read?_eq_some_iff`: which reference is read at the front of a text.
* `Config.existsUnique_leftmost`: every text is cut up in one way.
* `Config.value_expandText`, `Config.run_expandText`: what a text comes to.
* `Config.becomes_of_leftmost`: what becomes of a text that is cut up in this way.
-/

namespace ProjectLint.Config

open Log Text

variable {r r' : Reference} {l : Letter} {ls rest name : List Letter}

/-! ### The reference at a place -/

namespace Reference

theorem isNameLetter_iff : isNameLetter l = true ↔ l ≠ .char '\x7d' ∧ l ≠ .char ':' := by
  simp [isNameLetter]

theorem length_text_pos (r : Reference) : 0 < r.text.length := Nat.succ_pos _

/-- What follows the name of a reference, up to its end. -/
def ending (r : Reference) : List Letter :=
  (match r.fallback with
    | none => []
    | some d => .char ':' :: .char '-' :: d) ++ [.char '\x7d']

theorem text_append (r : Reference) (rest : List Letter) :
    r.text ++ rest = .char '$' :: .char '\x7b' :: (r.name ++ (r.ending ++ rest)) := by
  have htext : r.text = .char '$' :: .char '\x7b' :: (r.name ++ r.ending) := rfl
  simp [htext]

/-- The name of a reference ends where no letter of a name follows. -/
theorem exists_ending_eq (r : Reference) :
    ∃ l tail, r.ending = l :: tail ∧ isNameLetter l = false := by
  obtain ⟨name, _ | d⟩ := r
  · exact ⟨.char '\x7d', [], rfl, rfl⟩
  · exact ⟨.char ':', .char '-' :: (d ++ [.char '\x7d']), rfl, rfl⟩

/-- The end of a reference is read after its name. -/
theorem readEnd?_ending (h : r.Valid) (rest : List Letter) :
    readEnd? r.name (r.ending ++ rest) = some r := by
  obtain ⟨name, _ | d⟩ := r
  · rfl
  · have hbrace : ∀ x ∈ d, decide (x ≠ .char '\x7d') = true := fun x hx =>
      decide_eq_true fun heq => h.fallback d rfl (heq ▸ hx)
    simp only [ending, List.cons_append, List.append_assoc, List.nil_append, readEnd?]
    rw [if_pos (by simp), List.takeWhile_append_of_pos hbrace]
    simp

theorem read?_text_append (h : r.Valid) (rest : List Letter) :
    read? (r.text ++ rest) = some r := by
  have hname : ∀ x ∈ r.name, isNameLetter x = true := fun x hx => isNameLetter_iff.mpr (h.name x hx)
  obtain ⟨l, tail, hending, hl⟩ := r.exists_ending_eq
  have htake : (r.name ++ (r.ending ++ rest)).takeWhile isNameLetter = r.name := by
    rw [List.takeWhile_append_of_pos hname, hending]
    simp [hl]
  have hdrop : (r.name ++ (r.ending ++ rest)).dropWhile isNameLetter = r.ending ++ rest := by
    rw [List.dropWhile_append_of_pos hname, hending]
    simp [hl]
  rw [text_append, read?, htake, hdrop, if_neg h.name_ne_nil, readEnd?_ending h]

theorem valid_of_readEnd? (hne : name ≠ []) (hname : ∀ x ∈ name, isNameLetter x = true)
    (h : readEnd? name ls = some r) : r.Valid := by
  have hletters : ∀ x ∈ name, x ≠ .char '\x7d' ∧ x ≠ .char ':' := fun x hx =>
    isNameLetter_iff.mp (hname x hx)
  unfold readEnd? at h
  split at h
  · cases h
    exact ⟨hne, hletters, by simp⟩
  · split at h
    · cases h
      refine ⟨hne, hletters, ?_⟩
      rintro d ⟨⟩ hbrace
      simpa using List.mem_takeWhile_imp hbrace
    · cases h
  · cases h

theorem valid_of_read? (h : read? ls = some r) : r.Valid := by
  unfold read? at h
  split at h
  · split at h
    · cases h
    · next hne => exact valid_of_readEnd? hne (fun x hx => List.mem_takeWhile_imp hx) h
  · cases h

/-- A reference is read at the front of a text if it is a valid one and stands there. -/
theorem read?_eq_some_iff : read? ls = some r ↔ r.Valid ∧ r.text <+: ls := by
  constructor
  · intro h
    obtain ⟨rest, rfl⟩ := exists_of_read? h
    exact ⟨valid_of_read? h, List.prefix_append _ _⟩
  · rintro ⟨hvalid, rest, rfl⟩
    exact read?_text_append hvalid rest

end Reference

/-- A reference starts at the front of a text. -/
def Starts (ls : List Letter) : Prop := ∃ r : Reference, r.Valid ∧ r.text <+: ls

theorem not_starts_iff : ¬Starts ls ↔ Reference.read? ls = none := by
  rw [Option.eq_none_iff_forall_ne_some]
  simp only [ne_eq, Reference.read?_eq_some_iff]
  exact not_exists

/-! ### Segments -/

theorem segmentsFrom_eq_drop (n : Nat) (ls : List Letter) :
    segmentsFrom n ls = segments (ls.drop n) := by
  induction n generalizing ls with
  | zero => rfl
  | succ n ih =>
    cases ls with
    | nil => rfl
    | cons l ls => rw [segmentsFrom, ih, List.drop_succ_cons]

@[simp] theorem segments_nil : segments [] = [] := rfl

/-- A letter at which no reference starts stands for itself. -/
theorem segments_cons_of_not_starts (h : ¬Starts (l :: ls)) :
    segments (l :: ls) = .plain l :: segments ls := by
  rw [segments, segmentsFrom, not_starts_iff.mp h]
  rfl

/-- A reference at the front is the first segment. -/
theorem segments_text_append (h : r.Valid) (rest : List Letter) :
    segments (r.text ++ rest) = .reference r :: segments rest := by
  have hread := Reference.read?_text_append h rest
  obtain ⟨l, tail, htext⟩ := List.exists_cons_of_length_pos r.length_text_pos
  rw [htext, List.cons_append] at hread ⊢
  rw [segments, segmentsFrom, hread]
  dsimp only
  rw [segmentsFrom_eq_drop, htext, List.length_cons, Nat.add_sub_cancel, List.drop_left]

/-! ### Cutting a text up -/

/-- A text that is cut up at references: the references, each with the letters in front of it back
to the one before, and the letters after the last one. -/
structure Cut where
  parts : List (List Letter × Reference)
  rest : List Letter

/-- No reference starts at the first places of a text, of which there are `n`. -/
def Clear (n : Nat) (ls : List Letter) : Prop := ∀ k < n, ¬Starts (ls.drop k)

namespace Cut

/-- The text that is cut up. -/
def text (c : Cut) : List Letter := (c.parts.flatMap fun p => p.1 ++ p.2.text) ++ c.rest

/-- The segments of a cut. -/
def segments (c : Cut) : List Segment :=
  (c.parts.flatMap fun p => p.1.map .plain ++ [.reference p.2]) ++ c.rest.map .plain

/-- A cut with one more reference in front, after some letters. -/
def push (plain : List Letter) (r : Reference) (c : Cut) : Cut := ⟨(plain, r) :: c.parts, c.rest⟩

/-- Each reference of a cut is a valid one, and starts at the first place after the one before it
where any reference starts; none starts after the last one. -/
inductive Leftmost : Cut → Prop
  | last {rest : List Letter} (h : Clear rest.length rest) : Leftmost ⟨[], rest⟩
  | push {plain : List Letter} {r : Reference} {c : Cut} (hvalid : r.Valid)
    (h : Clear plain.length (plain ++ (r.text ++ c.text))) (hc : Leftmost c) :
    Leftmost (c.push plain r)

variable {c c' : Cut} {plain : List Letter}

@[simp] theorem text_push (plain : List Letter) (r : Reference) (c : Cut) :
    (c.push plain r).text = plain ++ (r.text ++ c.text) := by
  simp [text, push]

@[simp] theorem segments_push (plain : List Letter) (r : Reference) (c : Cut) :
    (c.push plain r).segments = plain.map .plain ++ .reference r :: c.segments := by
  simp [segments, push]

theorem clear_cons_iff {n : Nat} : Clear (n + 1) (l :: ls) ↔ ¬Starts (l :: ls) ∧ Clear n ls := by
  constructor
  · exact fun h => ⟨h 0 (Nat.succ_pos n), fun k hk => h (k + 1) (Nat.succ_lt_succ hk)⟩
  · rintro ⟨hfirst, h⟩ (_ | k) hk
    · exact hfirst
    · exact h k (Nat.lt_of_succ_lt_succ hk)

theorem segments_append_of_clear (h : Clear plain.length (plain ++ ls)) :
    Config.segments (plain ++ ls) = plain.map .plain ++ Config.segments ls := by
  induction plain with
  | nil => rfl
  | cons l plain ih =>
    rw [List.cons_append] at h ⊢
    obtain ⟨hl, hplain⟩ := clear_cons_iff.mp h
    rw [segments_cons_of_not_starts hl, ih hplain]
    rfl

/-- The segments of a text are those of the way in which a reader cuts it up. -/
theorem Leftmost.segments_text (h : c.Leftmost) : Config.segments c.text = c.segments := by
  induction h with
  | @last rest h =>
    have hrest : Config.segments (rest ++ []) = rest.map .plain ++ Config.segments [] :=
      segments_append_of_clear (by rwa [List.append_nil])
    simpa [text, segments] using hrest
  | push hvalid h hc ih =>
    rw [text_push, segments_append_of_clear h, segments_text_append hvalid, ih, segments_push]

/-! ### The only way -/

/-- A cut with one more letter in front. -/
def cons (l : Letter) : Cut → Cut
  | ⟨[], rest⟩ => ⟨[], l :: rest⟩
  | ⟨(plain, r) :: parts, rest⟩ => ⟨(l :: plain, r) :: parts, rest⟩

/-- The cut with given segments. -/
def ofSegments : List Segment → Cut
  | [] => ⟨[], []⟩
  | .plain l :: segments => (ofSegments segments).cons l
  | .reference r :: segments => (ofSegments segments).push [] r

theorem text_cons (l : Letter) (c : Cut) : (c.cons l).text = l :: c.text := by
  obtain ⟨_ | ⟨p, parts⟩, rest⟩ := c <;> simp [cons, text]

theorem ofSegments_plain_push (plain : List Letter) (r : Reference) (ss : List Segment) :
    ofSegments (plain.map .plain ++ .reference r :: ss) = (ofSegments ss).push plain r := by
  induction plain with
  | nil => rfl
  | cons l plain ih =>
    rw [List.map_cons, List.cons_append, ofSegments, ih]
    rfl

/-- A cut is determined by its segments. -/
theorem ofSegments_segments (c : Cut) : ofSegments c.segments = c := by
  obtain ⟨parts, rest⟩ := c
  induction parts with
  | nil =>
    induction rest with
    | nil => rfl
    | cons l rest ih =>
      have hsegments : (⟨[], l :: rest⟩ : Cut).segments =
          .plain l :: (⟨[], rest⟩ : Cut).segments := rfl
      rw [hsegments, ofSegments, ih]
      rfl
  | cons p parts ih =>
    have hpush : (⟨p :: parts, rest⟩ : Cut) = push p.1 p.2 ⟨parts, rest⟩ := rfl
    rw [hpush, segments_push, ofSegments_plain_push, ih]

theorem Leftmost.eq_of_text_eq (h : c.Leftmost) (h' : c'.Leftmost) (htext : c.text = c'.text) :
    c = c' := by
  rw [← ofSegments_segments c, ← h.segments_text, htext, h'.segments_text, ofSegments_segments]

theorem Leftmost.cons (h : c.Leftmost) (hl : ¬Starts (l :: c.text)) : (c.cons l).Leftmost := by
  cases h with
  | last h =>
    refine .last (clear_cons_iff.mpr ⟨?_, h⟩)
    simpa [text] using hl
  | @push plain r c hvalid h hc =>
    rw [text_push] at hl
    have hclear : Clear (l :: plain).length (l :: plain ++ (r.text ++ c.text)) :=
      clear_cons_iff.mpr ⟨hl, h⟩
    exact .push hvalid hclear hc

/-- Every text can be cut up at its references. -/
theorem exists_leftmost (ls : List Letter) : ∃ c : Cut, c.text = ls ∧ c.Leftmost := by
  induction hn : ls.length using Nat.strong_induction_on generalizing ls with
  | _ n ih =>
    subst hn
    cases ls with
    | nil => exact ⟨⟨[], []⟩, rfl, .last fun k hk => absurd hk (Nat.not_lt_zero k)⟩
    | cons l ls =>
      by_cases hl : Starts (l :: ls)
      · obtain ⟨r, hvalid, rest, hrest⟩ := hl
        have hshorter : rest.length < (l :: ls).length := by
          have hpos := r.length_text_pos
          rw [← hrest, List.length_append]
          omega
        obtain ⟨c, rfl, hc⟩ := ih _ hshorter rest rfl
        exact ⟨c.push [] r, by rw [text_push, ← hrest]; rfl,
          .push hvalid (fun k hk => absurd hk (Nat.not_lt_zero k)) hc⟩
      · obtain ⟨c, rfl, hc⟩ := ih _ (Nat.lt_succ_self _) ls rfl
        exact ⟨c.cons l, text_cons l c, hc.cons hl⟩

end Cut

/-- **A text is cut up at its references in one way.** -/
theorem existsUnique_leftmost (ls : List Letter) : ∃! c : Cut, c.text = ls ∧ c.Leftmost := by
  obtain ⟨c, hc, hleftmost⟩ := Cut.exists_leftmost ls
  exact ⟨c, ⟨hc, hleftmost⟩, fun c' h => h.2.eq_of_text_eq hleftmost (h.1.trans hc.symm)⟩

/-! ### What a reference becomes -/

namespace Reference

/-- A reference has a name that can be handed to the system. -/
def Encodable (r : Reference) : Prop := Letter.Encodable r.name

instance : DecidablePred Encodable := fun r => inferInstanceAs (Decidable (Letter.Encodable r.name))

/-- What is put in the place of a reference, and what is recorded about it: the value of the first
variable that has its name, if there is one, also if this is empty; else the default; and without
either nothing, with one warning. -/
inductive Becomes (environment : Environment) (r : Reference) : List Letter → List Record → Prop
  | set {before after : List (String × String)} {name value : String}
    (hvars : environment.vars = before ++ (name, value) :: after)
    (hname : Letter.Names r.name name) (hfirst : ∀ v ∈ before, ¬Letter.Names r.name v.1) :
    Becomes environment r (Letter.ofText value) []
  | fallback {default : List Letter} (hunset : ∀ v ∈ environment.vars, ¬Letter.Names r.name v.1)
    (hdefault : r.fallback = some default) : Becomes environment r default []
  | lost (hunset : ∀ v ∈ environment.vars, ¬Letter.Names r.name v.1) (hnone : r.fallback = none) :
    Becomes environment r [] [⟨.warning, .loading, "Environment variable $" ++
      Letter.toText r.name ++ " is not set and has no default", none⟩]

/-- The fault of a name that cannot be handed to the system. -/
def fault? (r : Reference) : Option Letter.EncodeFault :=
  match Letter.encode r.name with
  | .error f => some f
  | .ok _ => none

/-- The value of the variable that a reference names, if there is one. -/
def set? (environment : Environment) (r : Reference) : Option String :=
  ((Letter.encode r.name).toOption).bind environment.getBytes?

/-- What is put in the place of a reference. -/
def replacement (environment : Environment) (r : Reference) : List Letter :=
  match r.set? environment with
  | some v => Letter.ofText v
  | none => r.fallback.getD []

/-- What is recorded about a reference. -/
def warnings (environment : Environment) (r : Reference) : List Record :=
  if (r.set? environment).isNone && r.fallback.isNone then [r.warning] else []

theorem fault?_eq_none_iff : r.fault? = none ↔ r.Encodable := by
  simp only [Encodable, Letter.Encodable, ← Letter.encode_eq_ok_iff]
  rw [fault?]
  cases Letter.encode r.name <;> simp

theorem fault?_eq_some_iff {f : Letter.EncodeFault} :
    r.fault? = some f ↔ Letter.encode r.name = .error f := by
  rw [fault?]
  cases Letter.encode r.name <;> simp

theorem names_iff {bytes : List UInt8} (h : Letter.encode r.name = .ok bytes) (s : String) :
    Letter.Names r.name s ↔ s.toByteArray.data.toList = bytes := by
  rw [Letter.Names, ← Letter.encode_eq_ok_iff, h, Except.ok.injEq, eq_comm]

/-- A name that can be handed to the system is looked up. -/
theorem lookup_eq (h : r.Encodable) (environment : Environment) :
    r.lookup environment = .ok (r.set? environment) := by
  obtain ⟨bytes, hbytes⟩ := h
  rw [lookup, set?, Letter.encode_eq_ok_iff.mpr hbytes]
  rfl

theorem run_value (h : r.Encodable) (environment : Environment) :
    (r.value environment).run = ⟨.ok (r.replacement environment), r.warnings environment⟩ := by
  rw [value, lookup_eq h, replacement, warnings]
  cases r.set? environment with
  | some v => rfl
  | none => cases r.fallback <;> rfl

theorem value_value (environment : Environment) (r : Reference) :
    (r.value environment).run.value = orFault r.fault? (r.replacement environment) := by
  cases h : r.fault? with
  | none =>
    rw [run_value (fault?_eq_none_iff.mp h)]
    rfl
  | some f =>
    rw [value, value_run_bind, lookup, fault?_eq_some_iff.mp h]
    rfl

/-- **What a reference becomes.** -/
theorem becomes (h : r.Encodable) (environment : Environment) :
    r.Becomes environment (r.replacement environment) (r.warnings environment) := by
  obtain ⟨bytes, hbytes⟩ := h
  rw [← Letter.encode_eq_ok_iff] at hbytes
  have hset : r.set? environment =
      (environment.vars.find? fun v => v.1.toByteArray.data.toList = bytes).map (·.2) := by
    rw [set?, hbytes]
    rfl
  rw [replacement, warnings, hset]
  cases hfind : environment.vars.find? fun v => v.1.toByteArray.data.toList = bytes with
  | some v =>
    obtain ⟨hv, before, after, hvars, hbefore⟩ := List.find?_eq_some_iff_append.mp hfind
    refine .set hvars ((names_iff hbytes _).mpr (by simpa using hv)) fun u hu hname => ?_
    have hne := hbefore u hu
    simp [(names_iff hbytes _).mp hname] at hne
  | none =>
    have hunset : ∀ v ∈ environment.vars, ¬Letter.Names r.name v.1 := fun v hv hname => by
      have hne := List.find?_eq_none.mp hfind v hv
      simp [(names_iff hbytes _).mp hname] at hne
    cases hfallback : r.fallback with
    | some d => exact .fallback hunset hfallback
    | none => exact .lost hunset hfallback

end Reference

/-! ### What a text becomes -/

/-- The reference that a segment is. -/
def Segment.reference? : Segment → Option Reference
  | plain _ => none
  | reference r => some r

/-- What a segment becomes. -/
def Segment.replacement (environment : Environment) : Segment → List Letter
  | plain l => [l]
  | reference r => r.replacement environment

/-- What is recorded about a segment. -/
def Segment.warnings (environment : Environment) : Segment → List Record
  | plain _ => []
  | reference r => r.warnings environment

/-- The references in a text, in order. -/
def references (ls : List Letter) : List Reference := (segments ls).filterMap Segment.reference?

/-- A text with its references replaced. -/
def replacedText (environment : Environment) (ls : List Letter) : List Letter :=
  (segments ls).flatMap (Segment.replacement environment)

/-- What is recorded about the references in a text. -/
def textWarnings (environment : Environment) (ls : List Letter) : List Record :=
  (segments ls).flatMap (Segment.warnings environment)

variable (environment : Environment)

/-- What a text comes to: the first name that cannot be handed to the system is the fault of the
text. -/
theorem value_expandText (ls : List Letter) :
    (expandText environment ls).run.value =
      orFault ((references ls).findSome? Reference.fault?) (replacedText environment ls) := by
  have hsegment : ∀ s ∈ segments ls, (s.expand environment).run.value =
      orFault (s.reference?.bind Reference.fault?) (s.replacement environment) := by
    rintro (l | r) -
    · rfl
    · exact r.value_value environment
  have hfirst : (references ls).findSome? Reference.fault? =
      (segments ls).findSome? fun s => s.reference?.bind Reference.fault? := by
    rw [references, ← List.head?_filterMap, List.filterMap_filterMap, List.head?_filterMap]
  rw [expandText, value_run_bind, value_run_mapM hsegment, hfirst]
  cases (segments ls).findSome? fun s => s.reference?.bind Reference.fault? <;> rfl

theorem run_expandText {ls : List Letter} (h : ∀ r ∈ references ls, r.Encodable) :
    (expandText environment ls).run =
      ⟨.ok (replacedText environment ls), textWarnings environment ls⟩ := by
  have hsegment : ∀ s ∈ segments ls, (s.expand environment).run =
      ⟨.ok (s.replacement environment), s.warnings environment⟩ := by
    rintro (l | r) hs
    · rfl
    · exact Reference.run_value (h r (List.mem_filterMap.mpr ⟨_, hs, rfl⟩)) environment
  rw [expandText, run_bind_of_ok (run_mapM_of_ok hsegment)]
  exact Logged.ext rfl (List.append_nil _)

namespace Cut

variable {c : Cut}

/-- The references of a cut. -/
def references (c : Cut) : List Reference := c.parts.map (·.2)

/-- What a text becomes that is cut up, and what is recorded on the way: each reference becomes what
it becomes, and the letters around the references are kept. -/
inductive Becomes (environment : Environment) : Cut → List Letter → List Record → Prop
  | last {rest : List Letter} : Becomes environment ⟨[], rest⟩ rest []
  | push {plain : List Letter} {r : Reference} {c : Cut} {value out : List Letter}
    {log later : List Record} (hr : r.Becomes environment value log)
    (hc : Becomes environment c out later) :
    Becomes environment (c.push plain r) (plain ++ (value ++ out)) (log ++ later)

theorem references_text (h : c.Leftmost) : Config.references c.text = c.references := by
  rw [Config.references, h.segments_text]
  clear h
  obtain ⟨parts, rest⟩ := c
  have hplain (ls : List Letter) :
      (ls.map Segment.plain).filterMap Segment.reference? = [] := by
    simp [Segment.reference?]
  induction parts with
  | nil => exact hplain rest
  | cons p parts ih =>
    have hpush : (⟨p :: parts, rest⟩ : Cut) = push p.1 p.2 ⟨parts, rest⟩ := rfl
    rw [hpush, segments_push, List.filterMap_append, hplain, List.nil_append, List.filterMap_cons,
      ih]
    rfl

theorem replacement_plain (ls : List Letter) :
    (ls.map Segment.plain).flatMap (Segment.replacement environment) = ls ∧
      (ls.map Segment.plain).flatMap (Segment.warnings environment) = [] := by
  have hvalue (l : Letter) : (Segment.plain l).replacement environment = [l] := rfl
  have hlog (l : Letter) : (Segment.plain l).warnings environment = [] := rfl
  simp [List.flatMap_map, hvalue, hlog]

theorem becomes_segments (h : ∀ r ∈ c.references, r.Encodable) :
    c.Becomes environment (c.segments.flatMap (Segment.replacement environment))
      (c.segments.flatMap (Segment.warnings environment)) := by
  obtain ⟨parts, rest⟩ := c
  induction parts with
  | nil =>
    obtain ⟨hplain, hnone⟩ := replacement_plain environment rest
    have hsegments : (⟨[], rest⟩ : Cut).segments = rest.map .plain := rfl
    rw [hsegments, hplain, hnone]
    exact .last
  | cons p parts ih =>
    have hpush : (⟨p :: parts, rest⟩ : Cut) = push p.1 p.2 ⟨parts, rest⟩ := rfl
    obtain ⟨hp, hparts⟩ := List.forall_mem_cons.mp h
    obtain ⟨hplain, hnone⟩ := replacement_plain environment p.1
    rw [hpush, segments_push, List.flatMap_append, List.flatMap_append, List.flatMap_cons,
      List.flatMap_cons, hplain, hnone, List.nil_append]
    exact .push (Reference.becomes hp environment) (ih hparts)

end Cut

/-- **What a text becomes that is cut up.** -/
theorem becomes_of_leftmost {c : Cut} (h : c.Leftmost) (hnames : ∀ r ∈ c.references, r.Encodable) :
    c.Becomes environment (replacedText environment c.text) (textWarnings environment c.text) := by
  rw [replacedText, textWarnings, h.segments_text]
  exact c.becomes_segments environment hnames

end ProjectLint.Config
