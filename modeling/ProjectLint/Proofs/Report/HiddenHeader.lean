import Mathlib.Data.List.Infix
import ProjectLint.Proofs.Report.Reading
import ProjectLint.Report.Finding

/-!
# Headers hidden in a message

The line of a finding has the finding's own fields as a reading. The file reference is the longest
that a reading can have, unless the message hides a header with some text after it; then everything
in front of that header is taken for the file reference. No text in the file reference, the label or
the locator has such an effect.

## Main definitions

* `HidesHeader`: a header stands in a text, and something follows it.
* `Finding.reading`: the fields of a finding as a reading of its line.

## Main results

* `Finding.Plain.isLongest_reading_iff`: the fields of a finding are the longest reading of its
  line exactly when the message hides no header.
* `Finding.Plain.length_message_lt`: otherwise the longest reading has a shorter message.
-/

namespace ProjectLint

open Text Report

/-! ### Hidden headers -/

/-- A header stands in a text, and something follows it. -/
def Report.HidesHeader (cs : List Char) : Prop :=
  ∃ (before : List Char) (h : Header) (after : List Char),
    h.Valid ∧ after ≠ [] ∧ cs = before ++ (h.text ++ after)

theorem Report.hidesHeader_iff {cs : List Char} :
    HidesHeader cs ↔ ∃ tail ∈ cs.tails, ∃ p ∈ Header.read? tail, p.2 ≠ [] := by
  simp only [List.mem_tails, Option.mem_def, Prod.exists, Header.read?_eq_some_iff]
  constructor
  · rintro ⟨before, h, after, hv, hne, rfl⟩
    exact ⟨_, List.suffix_append _ _, h, after, ⟨hv, rfl⟩, hne⟩
  · rintro ⟨_, ⟨before, rfl⟩, h, after, ⟨hv, rfl⟩, hne⟩
    exact ⟨before, h, after, hv, hne, rfl⟩

instance (cs : List Char) : Decidable (HidesHeader cs) := decidable_of_iff' _ hidesHeader_iff

namespace Finding

/-! ### The fields of a finding as a reading -/

/-- The fixed part of a finding's line. -/
def header (f : Finding) : Header :=
  ⟨' ', ' ', Nat.toDigits 10 f.line, ' ', ' ', Nat.toDigits 10 f.column, ' ', f.label, ' ', ' '⟩

/-- The free text at the end of a finding's line. -/
def trailer (f : Finding) : Trailer := ⟨f.message, ' ', f.locator⟩

/-- The fields of a finding as a reading of its line. -/
def reading (f : Finding) : Reading := ⟨f.file, f.header, f.trailer⟩

theorem render_eq (f : Finding) :
    f.render = f.file ++ (f.header.text ++ (f.message ++ ' ' :: f.locator)) := by
  simp [render, header, Header.text]

@[simp] theorem text_reading (f : Finding) : f.reading.text = f.render :=
  f.render_eq.symm

namespace Plain

variable {f : Finding}

theorem valid_header (hf : f.Plain) : f.header.Valid where
  gap₁ := rfl
  gap₂ := rfl
  line_ne_nil := Nat.toDigits_ne_nil
  line _ hc := Nat.isDigit_of_mem_toDigits (by decide) (by decide) hc
  gap₃ := rfl
  gap₄ := rfl
  column_ne_nil := Nat.toDigits_ne_nil
  column _ hc := Nat.isDigit_of_mem_toDigits (by decide) (by decide) hc
  gap₅ := rfl
  label_ne_nil := hf.label_ne_nil
  label := hf.label
  gap₆ := rfl
  gap₇ := rfl

theorem notMem_locator (hf : f.Plain) {c : Char} (hc : isBlank c = true) : c ∉ f.locator :=
  fun hm => by simp [hf.locator c hm] at hc

theorem valid_trailer (hf : f.Plain) : f.trailer.Valid where
  message_ne_nil := hf.message_ne_nil
  message := hf.message
  gap := rfl
  locator_ne_nil := hf.locator_ne_nil
  locator := hf.notMem_locator rfl

/-- The fields of a plain finding are a reading of its line. -/
theorem valid_reading (hf : f.Plain) : f.reading.Valid where
  file_ne_nil := hf.file_ne_nil
  file := hf.file
  header := hf.valid_header
  trailer := hf.valid_trailer

theorem lineFeed_notMem_render (hf : f.Plain) : '\n' ∉ f.render := by
  have hdigits (n : Nat) : '\n' ∉ Nat.toDigits 10 n := fun hm => by
    simpa using Nat.isDigit_of_mem_toDigits (by decide) (by decide) hm
  have hlabel : '\n' ∉ f.label := fun hm => by
    simpa [isBlank] using hf.label _ hm
  simp [render, hf.file, hf.message, hdigits, hlabel, hf.notMem_locator (c := '\n') rfl]

/-! ### Other readings of its line -/

/-- The blank in front of the locator is the last one of the line. -/
theorem exists_message_eq (hf : f.Plain) {a b : List Char} {c : Char} (hc : isBlank c = true)
    (he : a ++ c :: b = f.message ++ ' ' :: f.locator) : ∃ w, f.message = a ++ w := by
  rcases List.append_eq_append_iff.mp he with ⟨w, hw, -⟩ | ⟨w, rfl, hw⟩
  · exact ⟨w, hw⟩
  · cases w with
    | nil => exact ⟨[], by simp⟩
    | cons d w =>
      have hm : c ∈ f.locator := by
        rw [(List.cons.inj hw).2]
        simp
      exact absurd hm (hf.notMem_locator hc)

/-- A reading with a longer file reference has its header and its message inside of the message of
the finding. -/
theorem exists_message_eq_of_longer (hf : f.Plain) {r : Reading} (hr : r.Valid)
    (he : r.text = f.render) (hlen : f.file.length < r.file.length) :
    ∃ before after, f.message = before ++ (r.header.text ++ (r.trailer.message ++ after)) := by
  have htext : r.file ++ (r.header.text ++ r.trailer.text) =
      f.file ++ (f.header.text ++ (f.message ++ ' ' :: f.locator)) := he.trans f.render_eq
  obtain ⟨x, hx⟩ : f.file <+: r.file :=
    List.prefix_of_prefix_length_le ⟨_, htext.symm⟩ (List.prefix_append _ _) hlen.le
  have hne : x ≠ [] := by
    rintro rfl
    simp [← hx] at hlen
  rw [← hx, List.append_assoc, List.append_cancel_left_eq] at htext
  obtain ⟨z, rfl⟩ := Header.exists_of_overlap hf.valid_header hr.header hne htext.symm
  rw [List.append_assoc, List.append_cancel_left_eq] at htext
  have hlast : (z ++ (r.header.text ++ r.trailer.message)) ++ r.trailer.gap :: r.trailer.locator =
      f.message ++ ' ' :: f.locator := by
    rw [← htext]
    simp [Trailer.text]
  obtain ⟨after, hafter⟩ := hf.exists_message_eq hr.trailer.gap hlast
  exact ⟨z, after, by rw [hafter]; simp⟩

/-- A reading with the same file reference has no longer message. -/
theorem length_message_le (hf : f.Plain) {r : Reading} (hr : r.Valid) (he : r.text = f.render)
    (hlen : r.file.length = f.file.length) : r.trailer.message.length ≤ f.message.length := by
  obtain ⟨-, hrest⟩ := List.append_inj (he.trans f.render_eq) hlen
  obtain ⟨-, htrailer⟩ := Header.eq_of_text_append_eq hr.header hf.valid_header hrest
  obtain ⟨w, hw⟩ := hf.exists_message_eq hr.trailer.gap htrailer
  simp [hw]

/-- A reading with a longer file reference has a shorter message. -/
theorem length_message_lt (hf : f.Plain) {r : Reading} (hr : r.Valid) (he : r.text = f.render)
    (hlen : f.file.length < r.file.length) : r.trailer.message.length < f.message.length := by
  obtain ⟨before, after, hm⟩ := hf.exists_message_eq_of_longer hr he hlen
  have := congrArg List.length hm
  simp only [Header.text_eq, List.length_append, List.length_cons] at this
  omega

/-- There is a reading with a longer file reference exactly if the message hides a header. -/
theorem exists_longer_iff (hf : f.Plain) :
    (∃ r : Reading, r.Valid ∧ r.text = f.render ∧ f.file.length < r.file.length) ↔
      HidesHeader f.message := by
  constructor
  · rintro ⟨r, hr, he, hlen⟩
    obtain ⟨before, after, hm⟩ := hf.exists_message_eq_of_longer hr he hlen
    exact ⟨before, r.header, _, hr.header, by simp [hr.trailer.message_ne_nil], hm⟩
  · rintro ⟨before, h, after, hv, hne, hm⟩
    let r : Reading := ⟨f.file ++ (f.header.text ++ before), h, ⟨after, ' ', f.locator⟩⟩
    have he : r.text = f.render := by
      simp [r, Reading.text, Trailer.text, render_eq, hm]
    have hn : '\n' ∉ r.text := he ▸ hf.lineFeed_notMem_render
    simp only [Reading.text, Trailer.text, List.mem_append, List.mem_cons, not_or] at hn
    refine ⟨r, ⟨by simp [r, hf.file_ne_nil], ?_, hv, ?_⟩, he, ?_⟩
    · simpa [r] using hn.1
    · exact ⟨hne, hn.2.2.1, rfl, hf.locator_ne_nil, hn.2.2.2.2⟩
    · simp [r, Header.text_eq]

/-- **The fields of a finding are the longest reading of its line**, unless the message hides a
header. -/
theorem isLongest_reading_iff (hf : f.Plain) :
    f.reading.IsLongest f.render ↔ ¬ HidesHeader f.message := by
  rw [← hf.exists_longer_iff]
  constructor
  · rintro h ⟨r, hr, he, hlen⟩
    rcases h.longest r hr he with hlt | ⟨heq, -⟩
    · exact absurd hlen hlt.asymm
    · exact absurd heq hlen.ne'
  · intro h
    refine ⟨hf.valid_reading, f.text_reading, fun r hr he => ?_⟩
    rcases lt_trichotomy r.file.length f.file.length with hlt | heq | hgt
    · exact Or.inl hlt
    · exact Or.inr ⟨heq, hf.length_message_le hr he heq⟩
    · exact absurd ⟨r, hr, he, hgt⟩ h

end Plain

end Finding

end ProjectLint
