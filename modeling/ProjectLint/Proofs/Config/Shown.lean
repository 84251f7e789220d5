import Mathlib.Data.List.Basic
import ProjectLint.Config.Value

/-!
# How keys are shown

A key that is not known is told by its text. Numbers, dates and times are shown by digits and a few
signs, and bytes between quotes. So a name such as that of a setting is the text of no key but
itself.

## Main definitions

* `Value.IsGenuine`: a text is kept as letters only if it is no text of characters.
* `Value.isWord`: a text that only a text is shown as.

## Main results

* `Value.eq_str_of_isWord`: a key that is shown as a word is that word.
-/

namespace ProjectLint.Value

open Text

variable {c : Char} {cs ds : List Char}

/-- A text is kept as letters only if it is no text of characters. This holds of all texts that are
read from a file. -/
def IsGenuine : Value → Prop
  | illFormed text => Letter.characters? text = none
  | _ => True

/-- The characters of which numbers, dates and times are made. -/
def isNumeric (c : Char) : Bool := c.isDigit || ['.', 'e', '+', '-', ':', ' '].contains c

/-- The texts of the values that are neither texts nor made of digits. -/
def otherTexts : List String :=
  ["None", "True", "False", "nan", "inf", "-inf", "list", "tuple", "set", "dict"]

/-- A text that only a text is shown as. -/
def isWord (s : String) : Bool :=
  s.toList.any (fun c => !isNumeric c) &&
    s.toList.all (fun c => !(['\'', '"', '\ufffd'].contains c)) && !otherTexts.contains s

/-! ### Texts made of digits -/

@[simp] theorem all_toDigits (n : Nat) : (Nat.toDigits 10 n).all isNumeric = true :=
  List.all_eq_true.mpr fun c hc => by
    simp [isNumeric, Nat.isDigit_of_mem_toDigits (by decide) (by decide) hc]

@[simp] theorem all_zeros (n : Nat) : (List.replicate n '0').all isNumeric = true :=
  List.all_eq_true.mpr fun c hc => by
    rw [List.eq_of_mem_replicate hc]
    decide

theorem all_toString (n : Int) : (toString n).toList.all isNumeric = true := by
  cases n with
  | ofNat m =>
    change (Nat.repr m).toList.all isNumeric = true
    simp [Nat.repr]
  | negSucc m =>
    change ("-" ++ Nat.repr (m + 1)).toList.all isNumeric = true
    have hsign : isNumeric '-' = true := by decide
    simp [Nat.repr, hsign]

@[simp] theorem all_padded (width n : Nat) : (Calendar.padded width n).all isNumeric = true := by
  rw [Calendar.padded, List.all_append, all_zeros, all_toDigits]
  rfl

@[simp] theorem all_date (d : Calendar.Date) : d.text.all isNumeric = true := by
  have hsign : isNumeric '-' = true := by decide
  simp [-List.all_eq_true, Calendar.Date.text, hsign]

theorem all_moment (m : Calendar.Moment) : m.text.all isNumeric = true := by
  have hsigns : ['.', '+', '-', ':', ' '].all isNumeric = true := by decide
  rw [List.all_eq_true] at hsigns
  have htime : m.time.text.all isNumeric = true := by
    rw [Calendar.Time.text]
    split <;> simp [-List.all_eq_true, hsigns]
  have hoffset : ((m.offset.map Calendar.offsetText).getD []).all isNumeric = true := by
    cases m.offset with
    | none => rfl
    | some minutes =>
      by_cases hminutes : minutes < 0 <;>
        simp [-List.all_eq_true, Calendar.offsetText, hminutes, hsigns]
  simp [-List.all_eq_true, Calendar.Moment.text, htime, hoffset, hsigns]

/-! ### Numbers with a point -/

theorem all_of_subset (hds : ds ⊆ cs) (h : cs.all isNumeric = true) : ds.all isNumeric = true :=
  List.all_eq_true.mpr fun c hc => List.all_eq_true.mp h c (hds hc)

theorem dropLastWhile_subset (p : Char → Bool) (cs : List Char) : dropLastWhile p cs ⊆ cs := by
  intro c hc
  rw [dropLastWhile, List.mem_reverse] at hc
  exact List.mem_reverse.mp (List.dropWhile_subset p hc)

theorem all_shortest (m : Nat) (e : Int) : (Decimal.shortest m e).1.all isNumeric = true := by
  rw [Decimal.shortest]
  dsimp only
  split
  · decide
  · exact all_of_subset (dropLastWhile_subset _ _) (all_toDigits _)

theorem all_positional (point : Int) (h : ds.all isNumeric = true) :
    (Decimal.positional ds point).all isNumeric = true := by
  have hpoint : isNumeric '.' = true := by decide
  have hzero : isNumeric '0' = true := by decide
  rw [Decimal.positional]
  split
  · simp [-List.all_eq_true, hpoint, hzero, h]
  · split
    · simp [-List.all_eq_true, hpoint, hzero, h]
    · simp [-List.all_eq_true, hpoint, all_of_subset (List.take_subset _ _) h,
        all_of_subset (List.drop_subset _ _) h]

theorem all_scientific (point : Int) (h : ds.all isNumeric = true) :
    (Decimal.scientific ds point).all isNumeric = true := by
  have hsigns : ['.', 'e', '+', '-', '0'].all isNumeric = true := by decide
  rw [List.all_eq_true] at hsigns
  have hexponent (ds : List Char) (h : ds.all isNumeric = true) :
      (if ds.length < 2 then '0' :: ds else ds).all isNumeric = true := by
    split <;> simp [-List.all_eq_true, h, hsigns]
  have hpower := hexponent _ (all_toDigits (point - 1).natAbs)
  have hsign : isNumeric (if point - 1 < 0 then '-' else '+') = true := by
    split <;> decide
  rcases ds with _ | ⟨d, _ | ⟨d', rest⟩⟩ <;> simp_all [-List.all_eq_true, Decimal.scientific]

theorem all_float (negative : Bool) (m : Nat) (e : Int) :
    (Binary64.finite negative m e).text.toList.all isNumeric = true := by
  have hlayout (ds : List Char) (point : Int) (h : ds.all isNumeric = true) :
      (Decimal.layout ds point).all isNumeric = true := by
    rw [Decimal.layout]
    split
    · exact all_positional point h
    · exact all_scientific point h
  have hsign : (if negative then ['-'] else []).all isNumeric = true := by
    cases negative <;> decide
  rw [Binary64.text]
  split
  next ds point hds =>
    have hdigits : ds.all isNumeric = true := by
      split at hds
      · cases hds
        decide
      · have hshortest := all_shortest m e
        rwa [hds] at hshortest
    simp [-List.all_eq_true, hsign, hlayout ds point hdigits]

/-! ### Words -/

theorem not_isWord_of_all {s : String} (h : s.toList.all isNumeric = true) : isWord s = false := by
  have hnone : s.toList.any (fun c => !isNumeric c) = false :=
    List.any_eq_false.mpr fun c hc => by simp [List.all_eq_true.mp h c hc]
  rw [isWord, hnone, Bool.false_and, Bool.false_and]

theorem not_isWord_of_mem {s : String} (hc : c ∈ s.toList) (h : c ∈ ['\'', '"', '\ufffd']) :
    isWord s = false := by
  have hnotAll : s.toList.all (fun c => !(['\'', '"', '\ufffd'].contains c)) = false := by
    rw [List.all_eq_false]
    exact ⟨c, hc, by simp [h]⟩
  rw [isWord, hnotAll, Bool.and_false, Bool.false_and]

theorem not_isWord_of_other {s : String} (h : s ∈ otherTexts) : isWord s = false := by
  rw [isWord, List.contains_iff_mem.mpr h, Bool.not_true, Bool.and_false]

theorem mem_bytesText (bs : List UInt8) :
    '\'' ∈ (bytesText bs).toList ∨ '"' ∈ (bytesText bs).toList := by
  have hmark (cs : List Char) : Quoted.mark cs = '\'' ∨ Quoted.mark cs = '"' := by
    rw [Quoted.mark]
    split
    · exact .inr rfl
    · exact .inl rfl
  rcases hmark (bs.map fun b => Char.ofNat b.toNat) with h | h <;> simp [bytesText, h]

theorem exists_half_of_characters?_eq_none :
    ∀ {text : List Letter}, Letter.characters? text = none → ∃ code, .half code ∈ text
  | [], h => by simp [Letter.characters?] at h
  | .half code :: _, _ => ⟨code, by simp⟩
  | .char c :: text, h => by
    obtain ⟨code, hcode⟩ :=
      exists_half_of_characters?_eq_none (by simpa [Letter.characters?] using h)
    exact ⟨code, List.mem_cons_of_mem _ hcode⟩

/-- **A key that is shown as a word is that word.** -/
theorem eq_str_of_isWord {k : Value} (hk : k.IsGenuine) (h : isWord k.shown = true) :
    k = .str k.shown := by
  have hnot {s : String} (hs : isWord s = false) : k.shown ≠ s := by
    rintro rfl
    rw [h] at hs
    cases hs
  have hother : k.shown ∉ otherTexts := fun hmem => hnot (not_isWord_of_other hmem) rfl
  cases k with
  | str s => rfl
  | int n => exact absurd rfl (hnot (not_isWord_of_all (all_toString n)))
  | float x =>
    cases x with
    | finite negative m e => exact absurd rfl (hnot (not_isWord_of_all (all_float negative m e)))
    | nan => exact absurd (by decide) hother
    | infinite negative => cases negative <;> exact absurd (by decide) hother
  | bool b => cases b <;> exact absurd (by decide) hother
  | illFormed text =>
    obtain ⟨code, hcode⟩ := exists_half_of_characters?_eq_none hk
    have hmem : '\ufffd' ∈ (shown (.illFormed text)).toList := by
      simp only [shown, Letter.toText, String.toList_ofList, List.mem_map]
      exact ⟨_, hcode, rfl⟩
    exact absurd rfl (hnot (not_isWord_of_mem hmem (by decide)))
  | bytes bs =>
    rcases mem_bytesText bs with hmem | hmem
    · exact absurd rfl (hnot (not_isWord_of_mem hmem (by decide)))
    · exact absurd rfl (hnot (not_isWord_of_mem hmem (by decide)))
  | date d =>
    have hall : (String.ofList d.text).toList.all isNumeric = true := by simp [-List.all_eq_true]
    exact absurd rfl (hnot (not_isWord_of_all hall))
  | moment m =>
    have hall : (String.ofList m.text).toList.all isNumeric = true := by
      simp [-List.all_eq_true, all_moment]
    exact absurd rfl (hnot (not_isWord_of_all hall))
  | null | list | pair | set | map => exact absurd (by simp [shown, typeName, otherTexts]) hother

end ProjectLint.Value
