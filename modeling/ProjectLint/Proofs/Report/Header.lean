import Mathlib.Data.List.TakeWhile
import ProjectLint.Report.Reading

/-!
# The header of a report line

The fixed part of a finding can be read in one way only: once it is known where its colon stands,
every field is forced. Two headers in one text do not overlap either, because a colon inside a
header stands in the label, and what follows it there is no second header.

## Main definitions

* `Header.middle`: the characters between the colon of a header and its label.

## Main results

* `Header.read?_eq_some_iff`: reading a header undoes writing it.
* `Header.exists_of_overlap`: two headers in one text do not overlap.
-/

namespace ProjectLint.Report.Header

open Text

variable {α : Type} {a : α} {c : Char} {cs rest : List Char}

/-! ### The steps of reading -/

theorem blank?_eq_some_iff : blank? cs = some (c, rest) ↔ isBlank c = true ∧ cs = c :: rest := by
  cases cs with
  | nil => simp [blank?]
  | cons x xs =>
    by_cases hx : isBlank x = true
    · simp only [blank?, hx, if_true, Option.some.injEq, Prod.mk.injEq, List.cons.injEq]
      constructor
      · rintro ⟨rfl, rfl⟩
        exact ⟨hx, rfl, rfl⟩
      · rintro ⟨-, rfl, rfl⟩
        exact ⟨rfl, rfl⟩
    · simp only [blank?, hx, Bool.false_eq_true, if_false, List.cons.injEq, reduceCtorEq, false_iff]
      rintro ⟨hc, rfl, -⟩
      exact hx hc

theorem after?_eq_some_iff {expected : List Char} :
    after? expected cs = some rest ↔ cs = expected ++ rest := by
  unfold after?
  split
  · next h =>
    obtain ⟨t, rfl⟩ := List.isPrefixOf_iff_prefix.mp h
    simp
  · next h =>
    simp only [reduceCtorEq, false_iff]
    rintro rfl
    exact h (List.isPrefixOf_iff_prefix.mpr (List.prefix_append _ _))

/-- A run is as long as it can be: what follows it does not begin with a character of the run. -/
theorem run?_eq_some_iff {p : Char → Bool} {ds : List Char} :
    run? p cs = some (ds, rest) ↔
      ds ≠ [] ∧ (∀ d ∈ ds, p d = true) ∧ (∀ d, rest.head? = some d → p d = false) ∧
        cs = ds ++ rest := by
  unfold run?
  constructor
  · intro h
    split at h
    · simp at h
    · next hne =>
      obtain ⟨rfl, rfl⟩ := Prod.mk.inj (Option.some.inj h)
      refine ⟨hne, fun d hd => List.mem_takeWhile_imp hd, fun d hd => ?_,
        (List.takeWhile_append_dropWhile).symm⟩
      have := List.head?_dropWhile_not p cs
      simpa [hd] using this
  · rintro ⟨hne, hall, hhead, rfl⟩
    have hrest : rest.takeWhile p = [] ∧ rest.dropWhile p = rest := by
      cases rest with
      | nil => simp
      | cons d rest => simp [hhead d rfl]
    rw [List.takeWhile_append_of_pos hall, List.dropWhile_append_of_pos hall, hrest.1, hrest.2,
      List.append_nil, if_neg hne]

theorem bind_blank?_eq_some_iff {f : Char × List Char → Option α} :
    (blank? cs >>= f) = some a ↔
      ∃ c rest, isBlank c = true ∧ cs = c :: rest ∧ f (c, rest) = some a := by
  constructor
  · intro h
    obtain ⟨⟨c, rest⟩, hread, hf⟩ := Option.bind_eq_some_iff.mp h
    obtain ⟨hc, hcs⟩ := blank?_eq_some_iff.mp hread
    exact ⟨c, rest, hc, hcs, hf⟩
  · rintro ⟨c, rest, hc, hcs, hf⟩
    exact Option.bind_eq_some_iff.mpr ⟨_, blank?_eq_some_iff.mpr ⟨hc, hcs⟩, hf⟩

theorem bind_after?_eq_some_iff {expected : List Char} {f : List Char → Option α} :
    (after? expected cs >>= f) = some a ↔ ∃ rest, cs = expected ++ rest ∧ f rest = some a := by
  constructor
  · intro h
    obtain ⟨rest, hread, hf⟩ := Option.bind_eq_some_iff.mp h
    exact ⟨rest, after?_eq_some_iff.mp hread, hf⟩
  · rintro ⟨rest, hcs, hf⟩
    exact Option.bind_eq_some_iff.mpr ⟨_, after?_eq_some_iff.mpr hcs, hf⟩

theorem bind_run?_eq_some_iff {p : Char → Bool} {f : List Char × List Char → Option α} :
    (run? p cs >>= f) = some a ↔
      ∃ ds rest, ds ≠ [] ∧ (∀ d ∈ ds, p d = true) ∧ (∀ d, rest.head? = some d → p d = false) ∧
        cs = ds ++ rest ∧ f (ds, rest) = some a := by
  constructor
  · intro h
    obtain ⟨⟨ds, rest⟩, hread, hf⟩ := Option.bind_eq_some_iff.mp h
    obtain ⟨hne, hall, hhead, hcs⟩ := run?_eq_some_iff.mp hread
    exact ⟨ds, rest, hne, hall, hhead, hcs, hf⟩
  · rintro ⟨ds, rest, hne, hall, hhead, hcs, hf⟩
    exact Option.bind_eq_some_iff.mpr ⟨_, run?_eq_some_iff.mpr ⟨hne, hall, hhead, hcs⟩, hf⟩

/-! ### Whole headers -/

theorem text_append (h : Header) (rest : List Char) :
    h.text ++ rest = ':' :: h.gap₁ :: 'l' :: 'i' :: 'n' :: 'e' :: h.gap₂ ::
      (h.line ++ ',' :: h.gap₃ :: 'c' :: 'o' :: 'l' :: h.gap₄ :: (h.column ++ ',' :: h.gap₅ ::
        (h.label ++ h.gap₆ :: '-' :: h.gap₇ :: rest))) := by
  simp [text]

/-- **A header can be read in one way only.** At the front of a text a header is found exactly where
a valid one is written, with the fields that were written. -/
theorem read?_eq_some_iff {h : Header} :
    read? cs = some (h, rest) ↔ h.Valid ∧ cs = h.text ++ rest := by
  constructor
  · intro hr
    unfold read? at hr
    obtain ⟨cs₁, e₁, hr⟩ := bind_after?_eq_some_iff.mp hr
    obtain ⟨gap₁, cs₂, h₁, e₂, hr⟩ := bind_blank?_eq_some_iff.mp hr
    obtain ⟨cs₃, e₃, hr⟩ := bind_after?_eq_some_iff.mp hr
    obtain ⟨gap₂, cs₄, h₂, e₄, hr⟩ := bind_blank?_eq_some_iff.mp hr
    obtain ⟨line, cs₅, hl, hld, -, e₅, hr⟩ := bind_run?_eq_some_iff.mp hr
    obtain ⟨cs₆, e₆, hr⟩ := bind_after?_eq_some_iff.mp hr
    obtain ⟨gap₃, cs₇, h₃, e₇, hr⟩ := bind_blank?_eq_some_iff.mp hr
    obtain ⟨cs₈, e₈, hr⟩ := bind_after?_eq_some_iff.mp hr
    obtain ⟨gap₄, cs₉, h₄, e₉, hr⟩ := bind_blank?_eq_some_iff.mp hr
    obtain ⟨column, cs₁₀, hc, hcd, -, e₁₀, hr⟩ := bind_run?_eq_some_iff.mp hr
    obtain ⟨cs₁₁, e₁₁, hr⟩ := bind_after?_eq_some_iff.mp hr
    obtain ⟨gap₅, cs₁₂, h₅, e₁₂, hr⟩ := bind_blank?_eq_some_iff.mp hr
    obtain ⟨label, cs₁₃, hb, hbd, -, e₁₃, hr⟩ := bind_run?_eq_some_iff.mp hr
    obtain ⟨gap₆, cs₁₄, h₆, e₁₄, hr⟩ := bind_blank?_eq_some_iff.mp hr
    obtain ⟨cs₁₅, e₁₅, hr⟩ := bind_after?_eq_some_iff.mp hr
    obtain ⟨gap₇, cs₁₆, h₇, e₁₆, hr⟩ := bind_blank?_eq_some_iff.mp hr
    obtain ⟨rfl, rfl⟩ := Prod.mk.inj (Option.some.inj hr)
    have hlabel : ∀ c ∈ label, isBlank c = false := by simpa using hbd
    refine ⟨⟨h₁, h₂, hl, hld, h₃, h₄, hc, hcd, h₅, hb, hlabel, h₆, h₇⟩, ?_⟩
    rw [text_append, e₁, e₂, e₃, e₄, e₅, e₆, e₇, e₈, e₉, e₁₀, e₁₁, e₁₂, e₁₃, e₁₄, e₁₅, e₁₆]
    rfl
  · rintro ⟨hv, rfl⟩
    have hline : ∀ d, (',' :: h.gap₃ :: 'c' :: 'o' :: 'l' :: h.gap₄ :: (h.column ++ ',' ::
        h.gap₅ :: (h.label ++ h.gap₆ :: '-' :: h.gap₇ :: rest))).head? = some d →
          d.isDigit = false := by
      rintro d ⟨⟩
      rfl
    have hcolumn : ∀ d, (',' :: h.gap₅ :: (h.label ++ h.gap₆ :: '-' :: h.gap₇ :: rest)).head? =
        some d → d.isDigit = false := by
      rintro d ⟨⟩
      rfl
    have hlabel : ∀ d, (h.gap₆ :: '-' :: h.gap₇ :: rest).head? = some d →
        (!isBlank d) = false := by
      rintro d ⟨⟩
      simp [hv.gap₆]
    have hlabel' : ∀ d ∈ h.label, (!isBlank d) = true := by simpa using hv.label
    rw [text_append, read?]
    refine bind_after?_eq_some_iff.mpr ⟨_, rfl, ?_⟩
    refine bind_blank?_eq_some_iff.mpr ⟨_, _, hv.gap₁, rfl, ?_⟩
    refine bind_after?_eq_some_iff.mpr ⟨_, rfl, ?_⟩
    refine bind_blank?_eq_some_iff.mpr ⟨_, _, hv.gap₂, rfl, ?_⟩
    refine bind_run?_eq_some_iff.mpr ⟨_, _, hv.line_ne_nil, hv.line, hline, rfl, ?_⟩
    refine bind_after?_eq_some_iff.mpr ⟨_, rfl, ?_⟩
    refine bind_blank?_eq_some_iff.mpr ⟨_, _, hv.gap₃, rfl, ?_⟩
    refine bind_after?_eq_some_iff.mpr ⟨_, rfl, ?_⟩
    refine bind_blank?_eq_some_iff.mpr ⟨_, _, hv.gap₄, rfl, ?_⟩
    refine bind_run?_eq_some_iff.mpr ⟨_, _, hv.column_ne_nil, hv.column, hcolumn, rfl, ?_⟩
    refine bind_after?_eq_some_iff.mpr ⟨_, rfl, ?_⟩
    refine bind_blank?_eq_some_iff.mpr ⟨_, _, hv.gap₅, rfl, ?_⟩
    refine bind_run?_eq_some_iff.mpr ⟨_, _, hv.label_ne_nil, hlabel', hlabel, rfl, ?_⟩
    refine bind_blank?_eq_some_iff.mpr ⟨_, _, hv.gap₆, rfl, ?_⟩
    refine bind_after?_eq_some_iff.mpr ⟨_, rfl, ?_⟩
    exact bind_blank?_eq_some_iff.mpr ⟨_, _, hv.gap₇, rfl, rfl⟩

/-- A header is told by the text that begins with it. -/
theorem eq_of_text_append_eq {h h' : Header} (hv : h.Valid) (hv' : h'.Valid) {s s' : List Char}
    (he : h.text ++ s = h'.text ++ s') : h = h' ∧ s = s' := by
  have hr : read? (h.text ++ s) = some (h, s) := read?_eq_some_iff.mpr ⟨hv, rfl⟩
  have hr' : read? (h.text ++ s) = some (h', s') := read?_eq_some_iff.mpr ⟨hv', he⟩
  simpa using hr.symm.trans hr'

/-! ### Two headers in one text -/

/-- The characters of a header between its colon and its label. -/
def middle (h : Header) : List Char :=
  h.gap₁ :: 'l' :: 'i' :: 'n' :: 'e' :: h.gap₂ :: h.line ++
    ',' :: h.gap₃ :: 'c' :: 'o' :: 'l' :: h.gap₄ :: h.column ++ [',', h.gap₅]

theorem text_eq (h : Header) :
    h.text = ':' :: (h.middle ++ (h.label ++ [h.gap₆, '-', h.gap₇])) := by
  simp [text, middle]

theorem ne_colon_of_isBlank (h : isBlank c = true) : ':' ≠ c := by
  rintro rfl
  simp [isBlank] at h

theorem ne_colon_of_isDigit (h : c.isDigit = true) : ':' ≠ c := by
  rintro rfl
  simp [Char.isDigit] at h

theorem colon_notMem_middle {h : Header} (hv : h.Valid) : ':' ∉ h.middle := by
  have hline : ':' ∉ h.line := fun hm => ne_colon_of_isDigit (hv.line _ hm) rfl
  have hcolumn : ':' ∉ h.column := fun hm => ne_colon_of_isDigit (hv.column _ hm) rfl
  simp [middle, hline, hcolumn, ne_colon_of_isBlank hv.gap₁, ne_colon_of_isBlank hv.gap₂,
    ne_colon_of_isBlank hv.gap₃, ne_colon_of_isBlank hv.gap₄, ne_colon_of_isBlank hv.gap₅]

/-- A text that ends in front of a character `c` takes in the whole of a text without `c` beside
it. -/
theorem exists_of_append_eq_append_cons {l x ds : List Char} (hl : c ∉ l)
    (he : l ++ cs = x ++ c :: ds) : ∃ z, x = l ++ z ∧ cs = z ++ c :: ds := by
  rcases List.append_eq_append_iff.mp he with ⟨z, hx, hcs⟩ | ⟨z, rfl, hz⟩
  · exact ⟨z, hx, hcs⟩
  · cases z with
    | nil => exact ⟨[], by simp, by simpa using hz.symm⟩
    | cons d z =>
      obtain ⟨rfl, -⟩ := List.cons.inj hz
      simp at hl

/-- **Two headers do not overlap.** If a header begins inside of a text that begins with another
one, then it begins after that one. -/
theorem exists_of_overlap {h h' : Header} (hv : h.Valid) (hv' : h'.Valid) {x s s' : List Char}
    (hx : x ≠ []) (he : h.text ++ s = x ++ (h'.text ++ s')) : ∃ z, x = h.text ++ z := by
  obtain ⟨d, x, rfl⟩ := List.exists_cons_of_ne_nil hx
  rw [text_eq h, text_eq h'] at he
  simp only [List.cons_append, List.append_assoc, List.nil_append, List.cons.injEq] at he
  obtain ⟨rfl, hmiddle⟩ := he
  obtain ⟨y, rfl, hrest⟩ := exists_of_append_eq_append_cons (colon_notMem_middle hv) hmiddle
  -- The second colon stands after the label or inside of it; inside of it no header can begin.
  rcases List.append_eq_append_iff.mp hrest with ⟨z, rfl, hz⟩ | ⟨z, hlabel, hz⟩
  · have hgaps : ':' ∉ [h.gap₆, '-', h.gap₇] := by
      simp [ne_colon_of_isBlank hv.gap₆, ne_colon_of_isBlank hv.gap₇]
    obtain ⟨z, rfl, -⟩ := exists_of_append_eq_append_cons (l := [h.gap₆, '-', h.gap₇]) hgaps hz
    exact ⟨z, by simp [text_eq]⟩
  · exfalso
    simp only [middle, List.cons_append] at hz
    match z, hlabel, hz with
    | [], _, hz => exact ne_colon_of_isBlank hv.gap₆ (List.cons.inj hz).1
    | [_], _, hz => simp at hz
    | _ :: b :: z, hlabel, hz =>
      have hb : isBlank b = false := hv.label b (by simp [hlabel])
      obtain ⟨-, rfl, -⟩ : _ ∧ h'.gap₁ = b ∧ _ := by simpa using hz
      simp [hv'.gap₁] at hb

end ProjectLint.Report.Header
