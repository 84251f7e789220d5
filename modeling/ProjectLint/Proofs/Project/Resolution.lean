import Mathlib.Data.List.DropRight
import ProjectLint.Proofs.Project.JoinedPath
import ProjectLint.Proofs.Project.Root

/-!
# One path as seen from two directories

A path without an anchor first goes up some levels from the directory that it is seen from, and then
down again along names of its own. What is above these levels is all that it keeps of the directory,
so from two directories it leads to the same place exactly if they agree there.

## Main definitions

* `Path.climb`: how many levels a path goes up.
* `Path.AgreeAbove`: two directories that are the same but for their last parts.
* `Path.Readable`: a path whose text can be read back.

## Main results

* `absolute_parts`: what a path keeps of the directory that it is seen from.
* `absolute_eq_absolute_iff`: when a path leads to the same place from two directories.
* `Readable.ofText_text`, `ofText_joinText`: the paths of texts that were put together.
-/

namespace ProjectLint.Path

/-! ### Going up -/

/-- How many levels a path goes up from its beginning, which it is `depth` levels below by now. -/
def climbFrom : Nat → List String → Nat
  | _, [] => 0
  | depth, part :: parts =>
    if part ≠ ".." then climbFrom (depth + 1) parts
    else match depth with
      | 0 => climbFrom 0 parts + 1
      | depth + 1 => climbFrom depth parts

/-- How many levels a path of given parts goes up from its beginning. -/
def climb (parts : List String) : Nat := climbFrom 0 parts

/-- The names along which a path of given parts goes down in the end. -/
def descent (parts : List String) : List String := collapseParts true [] parts

theorem collapseParts_append (anchored : Bool) (taken front back : List String) :
    collapseParts anchored taken (front ++ back) =
      collapseParts anchored (collapseParts anchored taken front).reverse back := by
  induction front generalizing taken with
  | nil => simp [collapseParts]
  | cons part front ih =>
    by_cases hpart : part = ".."
    · cases taken with
      | nil => cases anchored <;> simpa [collapseParts, hpart] using ih _
      | cons last rest =>
        by_cases hlast : last = ".." <;> simpa [collapseParts, hpart, hlast] using ih _
    · simpa [collapseParts, hpart] using ih _

/-- At an anchor every `..` takes something back or is dropped. -/
theorem up_notMem_collapseParts {taken : List String} (h : ".." ∉ taken) (parts : List String) :
    ".." ∉ collapseParts true taken parts := by
  induction parts generalizing taken with
  | nil => simpa [collapseParts] using h
  | cons part parts ih =>
    by_cases hpart : part = ".."
    · cases taken with
      | nil => simpa [collapseParts, hpart] using ih h
      | cons last rest =>
        obtain ⟨hlast, hrest⟩ := List.ne_and_not_mem_of_not_mem_cons h
        simpa [collapseParts, hpart, Ne.symm hlast] using ih hrest
    · simpa [collapseParts, hpart] using ih (List.not_mem_cons_of_ne_of_not_mem (Ne.symm hpart) h)

theorem collapseParts_of_up_notMem {anchored : Bool} (taken : List String) {parts : List String}
    (h : ".." ∉ parts) : collapseParts anchored taken parts = taken.reverse ++ parts := by
  induction parts generalizing taken with
  | nil => simp [collapseParts]
  | cons part parts ih =>
    obtain ⟨hpart, hparts⟩ := List.ne_and_not_mem_of_not_mem_cons h
    simp [collapseParts, Ne.symm hpart, ih _ hparts]

/-- A path takes back from `outer` as many parts as it goes up above its beginning, `inner` being
the parts that it has taken itself by now. -/
theorem collapseParts_above {inner outer : List String} (hinner : ".." ∉ inner)
    (houter : ".." ∉ outer) (parts : List String) :
    collapseParts true (inner ++ outer) parts =
      (outer.drop (climbFrom inner.length parts)).reverse ++ collapseParts true inner parts := by
  induction parts generalizing inner outer with
  | nil => simp [collapseParts, climbFrom]
  | cons part parts ih =>
    by_cases hpart : part = ".."
    · cases inner with
      | nil =>
        cases outer with
        | nil => simp [collapseParts, hpart]
        | cons last rest =>
          obtain ⟨hlast, hrest⟩ := List.ne_and_not_mem_of_not_mem_cons houter
          have habove := ih (List.not_mem_nil) hrest
          simpa [collapseParts, climbFrom, hpart, Ne.symm hlast] using habove
      | cons last rest =>
        obtain ⟨hlast, hrest⟩ := List.ne_and_not_mem_of_not_mem_cons hinner
        simpa [collapseParts, climbFrom, hpart, Ne.symm hlast] using ih hrest houter
    · have htaken : ".." ∉ part :: inner :=
        List.not_mem_cons_of_ne_of_not_mem (Ne.symm hpart) hinner
      simpa [collapseParts, climbFrom, hpart] using ih htaken houter

/-! ### Two directories -/

variable {directory other path : Path}

theorem empty_append (path : Path) : (⟨.relative, []⟩ : Path) ++ path = path := by
  by_cases hp : path.anchor = .relative
  · rw [append_of_relative _ hp, ← hp, List.nil_append]
  · exact append_anchored _ hp

/-- Two directories that are the same but for their last parts, as many as there are `levels`. -/
def AgreeAbove (levels : Nat) (directory other : Path) : Prop :=
  directory.anchor = other.anchor ∧ directory.parts.rdrop levels = other.parts.rdrop levels

instance (levels : Nat) (directory other : Path) : Decidable (AgreeAbove levels directory other) :=
  inferInstanceAs (Decidable (_ ∧ _))

/-- A path without an anchor keeps of the directory that it is seen from what is above the levels
that it goes up. -/
theorem absolute_parts (hd : directory.anchor ≠ .relative) (hp : path.anchor = .relative) :
    (absolute directory path).parts =
      directory.collapse.parts.rdrop (climb path.parts) ++ descent path.parts := by
  have hup : ".." ∉ (collapseParts true [] directory.parts).reverse := by
    simpa using up_notMem_collapseParts List.not_mem_nil directory.parts
  have habove := collapseParts_above List.not_mem_nil hup path.parts
  rw [List.nil_append, List.length_nil] at habove
  simp only [absolute, append_of_relative directory hp, collapse, hd, ne_eq, not_false_eq_true,
    decide_true]
  rw [collapseParts_append, habove, List.rdrop_eq_reverse_drop_reverse, climb, descent]

theorem anchor_append_ne (hd : directory.anchor ≠ .relative) (path : Path) :
    (directory ++ path).anchor ≠ .relative := by
  by_cases hp : path.anchor = .relative
  · rwa [append_of_relative directory hp]
  · rwa [append_anchored directory hp]

theorem anchor_absolute_ne (hd : directory.anchor ≠ .relative) (path : Path) :
    (absolute directory path).anchor ≠ .relative :=
  anchor_append_ne hd path

/-- What is seen from an anchored directory is as it is without `..`. -/
theorem collapse_absolute (hd : directory.anchor ≠ .relative) (path : Path) :
    (absolute directory path).collapse = absolute directory path := by
  have hanchor := anchor_append_ne hd path
  have hup : ".." ∉ collapseParts true [] (directory ++ path).parts :=
    up_notMem_collapseParts List.not_mem_nil _
  simp only [absolute, collapse, hanchor, ne_eq, not_false_eq_true, decide_true]
  rw [collapseParts_of_up_notMem [] hup, List.reverse_nil, List.nil_append]

theorem eq_iff {p q : Path} : p = q ↔ p.anchor = q.anchor ∧ p.parts = q.parts := by
  cases p
  cases q
  simp

/-- **When a path leads to the same place from two directories.** Either it is anchored, or the
directories agree above the levels that it goes up. -/
theorem absolute_eq_absolute_iff (hd : directory.anchor ≠ .relative)
    (ho : other.anchor ≠ .relative) :
    absolute directory path = absolute other path ↔
      path.anchor ≠ .relative ∨
        AgreeAbove (climb path.parts) directory.collapse other.collapse := by
  by_cases hp : path.anchor = .relative
  · have hanchor : ∀ d : Path, (absolute d path).anchor = d.anchor := by
      intro d
      rw [absolute, append_of_relative d hp, collapse_anchor]
    rw [eq_iff, hanchor, hanchor, absolute_parts hd hp, absolute_parts ho hp,
      List.append_left_inj]
    simp [hp, AgreeAbove]
  · simp [absolute, append_anchored _ hp, hp]

/-! ### Texts that were put together -/

/-- A path whose text can be read back: every part names something and holds no slash. -/
def Readable (p : Path) : Prop := ∀ part ∈ p.parts, isNaming part.toList ∧ '/' ∉ part.toList

theorem readable_ofText (s : String) : (ofText s).Readable := by
  intro part hpart
  simp only [ofText, partsOf, List.mem_map, List.mem_filter] at hpart
  obtain ⟨piece, ⟨hpiece, hnaming⟩, rfl⟩ := hpart
  rw [String.toList_ofList]
  exact ⟨hnaming, SearchPath.notMem_of_mem_splitOn hpiece⟩

theorem partsOf_cons (cs : List Char) : partsOf ('/' :: cs) = partsOf cs := by
  have hcut := List.splitOn_append_cons_self (a := '/') [] cs
  rw [List.nil_append, List.splitOn_nil] at hcut
  simp [partsOf, hcut, isNaming]

/-- What parts are joined to is cut into these parts. -/
theorem splitOn_intercalate {first : String} {rest : List String}
    (h : ∀ part ∈ first :: rest, '/' ∉ part.toList) :
    (("/".intercalate (first :: rest)).toList.splitOn '/') =
      (first :: rest).map String.toList := by
  rw [String.toList_intercalate]
  refine List.splitOn_intercalate '/' (fun piece hpiece => ?_) (by simp)
  obtain ⟨part, hpart, rfl⟩ := List.mem_map.mp hpiece
  exact h part hpart

theorem anchorOf_eq_relative_iff {cs : List Char} :
    anchorOf cs = .relative ↔ cs.head? ≠ some '/' := by
  rcases cs with _ | ⟨c, cs⟩
  · simp [anchorOf]
  · by_cases hc : c = '/'
    · subst hc
      unfold anchorOf
      split <;> simp_all
    · simp [anchorOf, hc]

theorem anchorOf_text_append (anchor : Anchor) {cs : List Char} (h : cs.head? ≠ some '/') :
    anchorOf (anchor.text.toList ++ cs) = anchor := by
  cases anchor with
  | relative => simpa [Anchor.text] using anchorOf_eq_relative_iff.mpr h
  | root =>
    cases cs with
    | nil => rfl
    | cons c cs =>
      have hc : c ≠ '/' := by simpa using h
      simp [Anchor.text, anchorOf, hc]
  | doubleRoot =>
    cases cs with
    | nil => rfl
    | cons c cs =>
      have hc : c ≠ '/' := by simpa using h
      simp [Anchor.text, anchorOf, hc]

theorem partsOf_text_append (anchor : Anchor) (cs : List Char) :
    partsOf (anchor.text.toList ++ cs) = partsOf cs := by
  cases anchor with
  | relative => rfl
  | root => exact partsOf_cons cs
  | doubleRoot => exact (partsOf_cons _).trans (partsOf_cons cs)

namespace Readable

variable {p q : Path}

theorem append (hp : p.Readable) (hq : q.Readable) : (p ++ q).Readable :=
  fun part hpart => (mem_parts_append hpart).elim (hp part) (hq part)

theorem partsOf_intercalate (h : p.Readable) :
    partsOf ("/".intercalate p.parts).toList = p.parts := by
  obtain ⟨anchor, _ | ⟨first, rest⟩⟩ := p
  · rfl
  · have hkept : ((first :: rest).map String.toList).filter isNaming =
        (first :: rest).map String.toList := by
      refine List.filter_eq_self.mpr fun piece hpiece => ?_
      obtain ⟨part, hpart, rfl⟩ := List.mem_map.mp hpiece
      exact (h part hpart).1
    rw [partsOf, splitOn_intercalate fun part hpart => (h part hpart).2, hkept, List.map_map]
    simp [Function.comp_def]

theorem head?_intercalate (h : p.Readable) :
    ("/".intercalate p.parts).toList.head? ≠ some '/' := by
  intro hhead
  obtain ⟨anchor, _ | ⟨first, rest⟩⟩ := p
  · simp at hhead
  · obtain ⟨tail, htail⟩ := List.head?_eq_some_iff.mp hhead
    have hcut := List.splitOn_append_cons_self (a := '/') [] tail
    have hparts := splitOn_intercalate fun part hpart => (h part hpart).2
    -- A slash at the front would cut off an empty part.
    rw [htail, ← List.nil_append ('/' :: tail), hcut, List.splitOn_nil] at hparts
    obtain ⟨hfirst, -⟩ := List.cons.inj hparts
    have hnaming := (h first List.mem_cons_self).1
    rw [← hfirst] at hnaming
    simp [isNaming] at hnaming

/-- The text of a path that can be read back is read as this path. -/
theorem ofText_text (h : p.Readable) : ofText p.text = p := by
  unfold text
  split
  · next hp =>
    rw [eq_iff, hp.1, hp.2]
    exact ⟨rfl, rfl⟩
  · rw [ofText, String.toList_append, anchorOf_text_append _ h.head?_intercalate,
      partsOf_text_append, h.partsOf_intercalate]

end Readable

theorem partsOf_append_cons (front back : List Char) :
    partsOf (front ++ '/' :: back) = partsOf front ++ partsOf back := by
  rw [partsOf, List.splitOn_append_cons_self, List.filter_append, List.map_append]
  rfl

/-- The anchor of a text that is not empty is that of any text that goes on without a slash. -/
theorem anchorOf_append {front back : List Char} (hfront : front ≠ [])
    (hback : back.head? ≠ some '/') : anchorOf (front ++ back) = anchorOf front := by
  rcases front with _ | ⟨a, _ | ⟨b, _ | ⟨c, front⟩⟩⟩
  · exact absurd rfl hfront
  · by_cases ha : a = '/'
    · subst ha
      exact anchorOf_text_append .root hback
    · simp [anchorOf, ha]
  · by_cases ha : a = '/' <;> by_cases hb : b = '/'
    · subst ha hb
      exact anchorOf_text_append .doubleRoot hback
    all_goals simp [anchorOf, ha, hb]
  · by_cases ha : a = '/' <;> by_cases hb : b = '/' <;> by_cases hc : c = '/' <;>
      simp [anchorOf, ha, hb, hc]

/-- The path of a name inside a directory that is given as a text. -/
theorem ofText_joinText (directory : String) {name : String} (h : '/' ∉ name.toList) :
    ofText (joinText directory name) = ofText directory ++ ofText name := by
  have hhead : name.toList.head? ≠ some '/' := fun hhead => h (List.mem_of_head? hhead)
  have hname : ofText name = ⟨.relative, partsOf name.toList⟩ := by
    rw [ofText, anchorOf_eq_relative_iff.mpr hhead]
  rw [hname, append_relative]
  unfold joinText
  split
  · next hempty =>
    obtain rfl : directory = "" := by simpa using hempty
    exact hname
  · next hne =>
    have hdirectory : directory.toList ≠ [] := by simpa using hne
    split
    · next hlast =>
      -- The slash at the end of the directory is the only one between it and the name.
      obtain ⟨front, hfront⟩ := List.getLast?_eq_some_iff.mp hlast
      have hparts : partsOf (directory.toList ++ name.toList) =
          partsOf directory.toList ++ partsOf name.toList := by
        rw [hfront, partsOf_concat, List.append_assoc]
        exact partsOf_append_cons front name.toList
      rw [ofText, String.toList_append, hparts, anchorOf_append hdirectory hhead, ofText]
    · next hlast =>
      have hother : ∃ c ∈ directory.toList, c ≠ '/' := by
        refine ⟨_, List.getLast_mem hdirectory, fun hc => hlast ?_⟩
        rw [List.getLast?_eq_some_getLast hdirectory, hc]
      have hjoined : (directory ++ "/" ++ name).toList =
          directory.toList ++ ['/'] ++ name.toList := by
        simp
      have hparts : partsOf (directory.toList ++ ['/'] ++ name.toList) =
          partsOf directory.toList ++ partsOf name.toList := by
        rw [List.append_assoc]
        exact partsOf_append_cons directory.toList name.toList
      rw [ofText, hjoined, hparts, anchorOf_append (by simp) hhead, anchorOf_concat hother, ofText]

/-- The path of several texts, each one inside the path of the texts before it. -/
def joined (texts : List String) : Path :=
  texts.foldl (fun p text => p ++ ofText text) ⟨.relative, []⟩

/-- A text that begins at an anchor. -/
def IsAnchored (text : String) : Prop := (ofText text).anchor ≠ .relative

instance (text : String) : Decidable (IsAnchored text) := inferInstanceAs (Decidable (_ ≠ _))

theorem anchor_foldl_append_iff (p : Path) (texts : List String) :
    (texts.foldl (fun p text => p ++ ofText text) p).anchor ≠ .relative ↔
      p.anchor ≠ .relative ∨ ∃ text ∈ texts, IsAnchored text := by
  induction texts generalizing p with
  | nil => simp
  | cons text texts ih =>
    have hfirst : (p ++ ofText text).anchor ≠ .relative ↔
        p.anchor ≠ .relative ∨ IsAnchored text := by
      by_cases ht : (ofText text).anchor = .relative
      · rw [append_of_relative p ht]
        simp [IsAnchored, ht]
      · simp [append_anchored p ht, IsAnchored, ht]
    rw [List.foldl_cons, ih, hfirst, or_assoc, List.exists_mem_cons_iff]

theorem parts_foldl_append (p : Path) {texts : List String}
    (h : ∀ text ∈ texts, ¬IsAnchored text) :
    (texts.foldl (fun p text => p ++ ofText text) p).parts =
      p.parts ++ texts.flatMap fun text => (ofText text).parts := by
  induction texts generalizing p with
  | nil => simp
  | cons text texts ih =>
    obtain ⟨htext, htexts⟩ := List.forall_mem_cons.mp h
    have hrelative : (ofText text).anchor = .relative := by simpa [IsAnchored] using htext
    rw [List.foldl_cons, ih _ htexts, append_of_relative p hrelative]
    simp

/-- The path of several texts is anchored exactly if one of them is. -/
theorem anchor_joined_iff {texts : List String} :
    (joined texts).anchor ≠ .relative ↔ ∃ text ∈ texts, IsAnchored text := by
  rw [joined, anchor_foldl_append_iff]
  simp

/-- The parts of several texts without an anchor follow one another. -/
theorem parts_joined {texts : List String} (h : ∀ text ∈ texts, ¬IsAnchored text) :
    (joined texts).parts = texts.flatMap fun text => (ofText text).parts :=
  parts_foldl_append ⟨.relative, []⟩ h

end ProjectLint.Path
