import ProjectLint.Proofs.Report.Header

/-!
# The longest reading of a line

A line is searched for a finding from its left end, with the file reference and then the message as
long as possible. The search finds a reading whenever there is one, and the one that it finds is the
longest: no other reading of the line has a longer file reference, or the same file reference and a
longer message.

## Main definitions

* `Reading.AtMost`: the order by the file reference and then by the message.
* `Reading.IsLongest`: the reading of a line that is meant.

## Main results

* `Reading.longest?_eq_some_iff`: the search finds the longest reading.
* `Reading.longest?_eq_none_iff`: the search fails only where there is no reading.
* `Reading.IsLongest.eq`: a line has at most one longest reading.
-/

namespace ProjectLint.Report

open Text

/-! ### Trailers -/

namespace Trailer

theorem longest?_cons_of_some {c : Char} {cs : List Char} {u : Trailer} (hc : c ≠ '\n')
    (hu : longest? cs = some u) :
    longest? (c :: cs) = some { u with message := c :: u.message } := by
  unfold longest?
  rw [if_neg hc, hu]

/-- The search finds a trailer wherever there is one, and its message is as long as any. -/
theorem exists_longest?_of_valid :
    ∀ {t : Trailer}, t.Valid → ∃ u, longest? t.text = some u ∧ t.message.length ≤ u.message.length
  | ⟨[], _, _⟩, hv => absurd rfl hv.message_ne_nil
  | ⟨[c], gap, locator⟩, hv => by
    have hc : c ≠ '\n' := by
      simpa [eq_comm] using hv.message
    cases hu : longest? (gap :: locator) with
    | some u =>
      exact ⟨{ u with message := c :: u.message }, longest?_cons_of_some hc hu, by simp⟩
    | none =>
      have hl : isBlank gap = true ∧ locator ≠ [] ∧ '\n' ∉ locator :=
        ⟨hv.gap, hv.locator_ne_nil, hv.locator⟩
      refine ⟨⟨[c], gap, locator⟩, ?_, le_rfl⟩
      simp only [text, List.cons_append, List.nil_append]
      unfold longest?
      rw [if_neg hc, hu]
      exact if_pos hl
  | ⟨c :: d :: message, gap, locator⟩, hv => by
    obtain ⟨hc, hd⟩ : '\n' ≠ c ∧ '\n' ∉ d :: message := by
      simpa using hv.message
    have hv' : Valid ⟨d :: message, gap, locator⟩ :=
      ⟨by simp, hd, hv.gap, hv.locator_ne_nil, hv.locator⟩
    obtain ⟨u, hu, hlen⟩ := exists_longest?_of_valid hv'
    exact ⟨{ u with message := c :: u.message }, longest?_cons_of_some hc.symm hu,
      by simpa using hlen⟩

/-- A trailer is told by its text and the length of its message. -/
theorem eq_of_text_eq {t u : Trailer} (he : t.text = u.text)
    (hl : t.message.length = u.message.length) : t = u := by
  obtain ⟨m, g, l⟩ := t
  obtain ⟨m', g', l'⟩ := u
  obtain ⟨rfl, h⟩ := List.append_inj he hl
  obtain ⟨rfl, rfl⟩ := List.cons.inj h
  rfl

end Trailer

/-! ### Readings -/

namespace Reading

/-- A reading is at most as long as another one: its file reference is shorter, or equally long and
its message no longer. -/
def AtMost (r s : Reading) : Prop :=
  r.file.length < s.file.length ∨
    r.file.length = s.file.length ∧ r.trailer.message.length ≤ s.trailer.message.length

/-- The reading of a line that is meant: the one with the longest file reference and, among these,
the longest message. -/
structure IsLongest (cs : List Char) (r : Reading) : Prop where
  valid : r.Valid
  text : r.text = cs
  longest : ∀ s : Reading, s.Valid → s.text = cs → s.AtMost r

theorem AtMost.cons {r s : Reading} (h : r.AtMost s) (c d : Char) :
    AtMost { r with file := c :: r.file } { s with file := d :: s.file } := by
  simpa [AtMost] using h

theorem longest?_cons_of_some {c : Char} {cs : List Char} {s : Reading} (hc : c ≠ '\n')
    (hs : longest? cs = some s) : longest? (c :: cs) = some { s with file := c :: s.file } := by
  rw [longest?, if_neg hc, hs]

/-- What is found after a file reference are a header and the longest trailer after it. -/
theorem afterFile?_eq_some_iff {cs : List Char} {h : Header} {t : Trailer} :
    afterFile? cs = some (h, t) ↔
      h.Valid ∧ ∃ rest, cs = h.text ++ rest ∧ Trailer.longest? rest = some t := by
  simp only [afterFile?, Option.bind_eq_bind, Option.bind_eq_some_iff, Prod.exists,
    Header.read?_eq_some_iff, Option.some.injEq, Prod.mk.injEq]
  constructor
  · rintro ⟨_, rest, ⟨hv, rfl⟩, _, ht, rfl, rfl⟩
    exact ⟨hv, rest, rfl, ht⟩
  · rintro ⟨hv, rest, rfl, ht⟩
    exact ⟨h, rest, ⟨hv, rfl⟩, t, ht, rfl, rfl⟩

/-- The fields of a reading that is found are as they should be, and make up the line. -/
theorem valid_of_longest? : ∀ {cs : List Char} {r : Reading},
    longest? cs = some r → r.Valid ∧ r.text = cs
  | [], r, h => by simp [longest?] at h
  | c :: cs, r, h => by
    unfold longest? at h
    split at h
    · simp at h
    · next hc =>
      split at h
      · next s hs =>
        obtain ⟨hv, ht⟩ := valid_of_longest? hs
        obtain rfl := Option.some.inj h
        refine ⟨⟨by simp, ?_, hv.header, hv.trailer⟩, by simp [text, ← ht]⟩
        simpa [eq_comm, hc] using hv.file
      · obtain ⟨⟨header, trailer⟩, ha, rfl⟩ := Option.map_eq_some_iff.mp h
        obtain ⟨hv, rest, rfl, ht⟩ := afterFile?_eq_some_iff.mp ha
        obtain ⟨htv, rfl⟩ := Trailer.valid_of_longest? ht
        exact ⟨⟨by simp, by simpa [eq_comm] using hc, hv, htv⟩, by simp [text]⟩

/-- The search finds a reading wherever there is one, and what it finds is at least as long. -/
theorem exists_longest?_of_valid :
    ∀ {r : Reading}, r.Valid → ∃ s, longest? r.text = some s ∧ r.AtMost s
  | ⟨[], _, _⟩, hv => absurd rfl hv.file_ne_nil
  | ⟨[c], header, trailer⟩, hv => by
    have hc : c ≠ '\n' := by
      simpa [eq_comm] using hv.file
    cases hs : longest? (header.text ++ trailer.text) with
    | some s =>
      have hfile : 0 < s.file.length := List.length_pos_iff.mpr (valid_of_longest? hs).1.file_ne_nil
      exact ⟨{ s with file := c :: s.file }, longest?_cons_of_some hc hs,
        Or.inl (by simpa using hfile)⟩
    | none =>
      obtain ⟨u, hu, hlen⟩ := Trailer.exists_longest?_of_valid hv.trailer
      have ha : afterFile? (header.text ++ trailer.text) = some (header, u) :=
        afterFile?_eq_some_iff.mpr ⟨hv.header, _, rfl, hu⟩
      refine ⟨⟨[c], header, u⟩, ?_, Or.inr ⟨rfl, hlen⟩⟩
      simp only [text, List.cons_append, List.nil_append]
      rw [longest?, if_neg hc, hs, ha]
      rfl
  | ⟨c :: d :: file, header, trailer⟩, hv => by
    obtain ⟨hc, hd⟩ : '\n' ≠ c ∧ '\n' ∉ d :: file := by
      simpa using hv.file
    have hv' : Valid ⟨d :: file, header, trailer⟩ := ⟨by simp, hd, hv.header, hv.trailer⟩
    obtain ⟨s, hs, hle⟩ := exists_longest?_of_valid hv'
    exact ⟨{ s with file := c :: s.file }, longest?_cons_of_some hc.symm hs, hle.cons c c⟩

/-- A line has at most one longest reading. -/
theorem IsLongest.eq {cs : List Char} {r s : Reading} (hr : r.IsLongest cs) (hs : s.IsLongest cs) :
    r = s := by
  have hrs := hs.longest r hr.valid hr.text
  have hsr := hr.longest s hs.valid hs.text
  obtain ⟨hfile, hmessage⟩ : r.file.length = s.file.length ∧
      r.trailer.message.length = s.trailer.message.length := by
    unfold AtMost at hrs hsr
    omega
  obtain ⟨f, h, t⟩ := r
  obtain ⟨f', h', t'⟩ := s
  obtain ⟨rfl, he⟩ := List.append_inj (hr.text.trans hs.text.symm) hfile
  obtain ⟨rfl, ht⟩ := Header.eq_of_text_append_eq hr.valid.header hs.valid.header he
  exact congrArg (Reading.mk f h) (Trailer.eq_of_text_eq ht hmessage)

/-- **The search finds the longest reading.** -/
theorem longest?_eq_some_iff {cs : List Char} {r : Reading} :
    longest? cs = some r ↔ r.IsLongest cs := by
  have isLongest {s : Reading} (hs : longest? cs = some s) : s.IsLongest cs := by
    obtain ⟨hv, ht⟩ := valid_of_longest? hs
    refine ⟨hv, ht, fun u hu hut => ?_⟩
    obtain ⟨s', hs', hle⟩ := exists_longest?_of_valid hu
    rw [hut, hs] at hs'
    exact Option.some.inj hs' ▸ hle
  refine ⟨isLongest, fun hr => ?_⟩
  obtain ⟨s, hs, -⟩ := exists_longest?_of_valid hr.valid
  rw [hr.text] at hs
  rw [hs, (isLongest hs).eq hr]

/-- **The search fails only where there is no reading.** -/
theorem longest?_eq_none_iff {cs : List Char} :
    longest? cs = none ↔ ∀ r : Reading, r.Valid → r.text ≠ cs := by
  constructor
  · rintro h r hr rfl
    obtain ⟨s, hs, -⟩ := exists_longest?_of_valid hr
    simp [h] at hs
  · intro h
    cases hs : longest? cs with
    | none => rfl
    | some s => exact absurd (valid_of_longest? hs).2 (h s (valid_of_longest? hs).1)

end Reading

end ProjectLint.Report
