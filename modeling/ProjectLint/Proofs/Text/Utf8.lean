import Mathlib.Data.List.Basic
import ProjectLint.Text.Utf8

/-!
# Where bytes can be cut

A byte of ASCII is always a character of its own, whatever stands around it. A character that is
begun in front of it is given up there, just as at the end of the bytes, and so the bytes can be cut
in front of it without a change of the text. Conversely no other byte makes up a character of ASCII.

## Main definitions

* `Utf8.Pending.Wide`: what is begun comes to nothing in ASCII.

## Main results

* `lossy_append`: bytes can be cut in front of a byte of ASCII.
* `lossy_intercalate`: a separator of ASCII separates the texts as it separates the bytes.
* `mem_lossy_iff`: a character of ASCII is in the text exactly when its byte is among the bytes.
-/

namespace ProjectLint.Text.Utf8

variable {held : Option Pending} {a b : UInt8} {bs cs : List UInt8}

/-! ### What is held -/

/-- What is begun goes on with no byte of ASCII, and does not become a number of ASCII: its payload
bits are too many for one, or will be with the next byte. -/
structure Pending.Wide (p : Pending) : Prop where
  low : 0x80 ≤ p.low
  value : p.missing = 0 → 2 ≤ p.value
  next : ∀ b, p.low ≤ b → b ≤ p.high → 2 ≤ 0x40 * p.value + b.toNat % 0x40

theorem wide_of_fresh : ∀ p ∈ (fresh b).2, p.Wide := by
  intro p hp
  simp only [fresh] at hp
  -- Each interval of first bytes that begin a character comes with its interval of next bytes.
  split_ifs at hp with hascii hstart htwo hthree hE0 hED hfour hF0 hF4
  all_goals simp only [Option.mem_def, reduceCtorEq, Option.some.injEq] at hp
  all_goals subst hp; constructor
  all_goals
    simp only [UInt8.lt_iff_toNat_lt, UInt8.le_iff_toNat_le, ← UInt8.toNat_inj,
      UInt8.reduceToNat] at *
  all_goals omega

theorem wide_of_step (h : ∀ p ∈ held, p.Wide) : ∀ p ∈ (step held b).2, p.Wide := by
  cases held with
  | none => exact wide_of_fresh
  | some p =>
    by_cases hb : p.low ≤ b ∧ b ≤ p.high
    · have hvalue := (h p rfl).next b hb.1 hb.2
      simp only [step, if_pos hb]
      cases p.missing with
      | zero => simp
      | succ missing =>
        rintro _ ⟨⟩
        exact ⟨UInt8.le_refl _, fun _ => hvalue, fun _ _ _ => by dsimp only; omega⟩
    · rw [step, if_neg hb]
      exact wide_of_fresh

theorem wide_of_run (bs : List UInt8) (h : ∀ p ∈ held, p.Wide) : ∀ p ∈ (run held bs).2, p.Wide := by
  induction bs generalizing held with
  | nil => exact h
  | cons b bs ih => exact ih (wide_of_step h)

/-! ### Cuts in front of ASCII -/

/-- A byte of ASCII gives up what is held, as the end of the bytes does, and is a character. -/
theorem step_ascii (h : ∀ p ∈ held, p.Wide) (ha : a < 0x80) :
    (step held a).1.map Piece.toChar = (flush held).map Piece.toChar ++ [Char.ofNat a.toNat] ∧
      (step held a).2 = none := by
  cases held with
  | none => simp [step, flush, fresh_ascii ha, Piece.toChar]
  | some p =>
    have hout : ¬(p.low ≤ a ∧ a ≤ p.high) := fun hp =>
      UInt8.lt_irrefl _ (UInt8.lt_of_lt_of_le ha (UInt8.le_trans (h p rfl).low hp.1))
    simp [step, hout, flush, fresh_ascii ha, Piece.toChar]

/-- A byte of ASCII cuts the bytes in two that are read apart. -/
theorem lossy_append_cons (bs cs : List UInt8) (ha : a < 0x80) :
    lossy (bs ++ a :: cs) = lossy bs ++ Char.ofNat a.toNat :: lossy cs := by
  have hwide : ∀ p ∈ (run none bs).2, p.Wide := wide_of_run bs (by simp)
  obtain ⟨hpieces, hheld⟩ := step_ascii hwide ha
  have hbs : pieces bs = (run none bs).1 ++ flush (run none bs).2 := by
    simpa [pieces, piecesFrom] using piecesFrom_append bs [] none
  rw [lossy, pieces, piecesFrom_append, piecesFrom, hheld, lossy, hbs]
  simp only [List.map_append, hpieces, List.append_assoc, List.singleton_append]
  rfl

theorem lossy_cons (bs : List UInt8) (ha : a < 0x80) :
    lossy (a :: bs) = Char.ofNat a.toNat :: lossy bs :=
  lossy_append_cons [] bs ha

/-- **Bytes can be cut in front of a byte of ASCII.** -/
theorem lossy_append (bs : List UInt8) (h : ∀ a ∈ cs.head?, a < 0x80) :
    lossy (bs ++ cs) = lossy bs ++ lossy cs := by
  cases cs with
  | nil => simp [lossy, pieces, piecesFrom, flush]
  | cons a cs =>
    have ha : a < 0x80 := h a rfl
    rw [lossy_append_cons bs cs ha, lossy_cons cs ha]

/-- Bytes of ASCII are characters. -/
theorem lossy_ascii (h : ∀ b ∈ bs, b < 0x80) :
    lossy bs = bs.map fun b => Char.ofNat b.toNat := by
  induction bs with
  | nil => rfl
  | cons b bs ih =>
    obtain ⟨hb, hbs⟩ := List.forall_mem_cons.mp h
    rw [lossy_cons bs hb, ih hbs, List.map_cons]

/-- A separator of ASCII separates the texts as it separates the bytes. -/
theorem lossy_intercalate (ha : a < 0x80) (parts : List (List UInt8)) :
    lossy ([a].intercalate parts) = [Char.ofNat a.toNat].intercalate (parts.map lossy) := by
  induction parts with
  | nil => rfl
  | cons bs parts ih =>
    cases parts with
    | nil => simp
    | cons bs' parts =>
      rw [List.intercalate_cons_cons, List.append_assoc, List.singleton_append,
        lossy_append_cons _ _ ha, ih]
      simp

/-! ### Characters of ASCII -/

theorem toNat_ofNat_of_lt {n : Nat} (h : n < 0x80) : (Char.ofNat n).toNat = n := by
  have hvalid : n.isValidChar := Or.inl (Nat.lt_trans h (by decide))
  rw [Char.ofNat, dif_pos hvalid]
  rfl

/-- The number of no character counts as that of the null character. -/
theorem toNat_ofNat_of_le {n : Nat} (h : 0x80 ≤ n) :
    (Char.ofNat n).toNat = 0 ∨ 0x80 ≤ (Char.ofNat n).toNat := by
  by_cases hvalid : n.isValidChar
  · right
    rw [Char.ofNat, dif_pos hvalid]
    exact h
  · left
    rw [Char.ofNat, dif_neg hvalid]
    rfl

/-- Only a byte of ASCII adds a character of ASCII, and this is its own. -/
theorem toNat_of_mem_step (h : ∀ p ∈ held, p.Wide) {x : Piece} (hx : x ∈ (step held b).1)
    (hzero : x.toChar.toNat ≠ 0) (hchar : x.toChar.toNat < 0x80) : b.toNat = x.toChar.toNat := by
  have hfresh : ∀ y ∈ (fresh b).1, y.toChar.toNat < 0x80 → b.toNat = y.toChar.toNat := by
    intro y hy hchar
    simp only [fresh] at hy
    split_ifs at hy with hascii
    · obtain rfl : y = .char (Char.ofNat b.toNat) := by simpa using hy
      exact (toNat_ofNat_of_lt (UInt8.lt_iff_toNat_lt.mp hascii)).symm
    all_goals simp_all [Piece.toChar]
  cases held with
  | none => exact hfresh x hx hchar
  | some p =>
    by_cases hb : p.low ≤ b ∧ b ≤ p.high
    · simp only [step, if_pos hb] at hx
      cases hmissing : p.missing with
      | zero =>
        have hvalue := (h p rfl).value hmissing
        obtain rfl : x = .char _ := by simpa [hmissing] using hx
        have hwide : 0x80 ≤ 0x40 * p.value + b.toNat % 0x40 := by omega
        exact absurd hchar (Nat.not_lt.mpr ((toNat_ofNat_of_le hwide).resolve_left hzero))
      | succ missing => simp [hmissing] at hx
    · rw [step, if_neg hb] at hx
      rcases List.mem_cons.mp hx with rfl | hx
      · simp [Piece.toChar] at hchar
      · exact hfresh x hx hchar

theorem le_toNat_of_mem_flush {x : Piece} (hx : x ∈ flush held) : 0x80 ≤ x.toChar.toNat := by
  cases held with
  | none => simp [flush] at hx
  | some p =>
    obtain rfl : x = .broken p.bytes .truncated := by simpa [flush] using hx
    simp [Piece.toChar]

/-- The bytes add no character of ASCII to what is held but their own. -/
theorem mem_of_mem_piecesFrom (h : ∀ p ∈ held, p.Wide) (hzero : a ≠ 0) (ha : a < 0x80)
    {x : Piece} (hx : x ∈ piecesFrom held bs) (hchar : x.toChar.toNat = a.toNat) : a ∈ bs := by
  have hlt : x.toChar.toNat < 0x80 := hchar ▸ UInt8.lt_iff_toNat_lt.mp ha
  have hne : x.toChar.toNat ≠ 0 := fun hx => hzero (UInt8.toNat_inj.mp (hchar.symm.trans hx))
  induction bs generalizing held with
  | nil => exact absurd hlt (Nat.not_lt.mpr (le_toNat_of_mem_flush hx))
  | cons b bs ih =>
    rcases List.mem_append.mp hx with hx | hx
    · have hb := toNat_of_mem_step h hx hne hlt
      rw [UInt8.toNat_inj.mp (hb.trans hchar)]
      exact List.mem_cons_self
    · exact List.mem_cons_of_mem b (ih (wide_of_step h) hx)

/-- **A character of ASCII is in the text exactly when its byte is among the bytes**: no byte of
ASCII is swallowed, and none is made up. (Nor is a null character made up, but this would take the
upper ends of the intervals.) -/
theorem mem_lossy_iff (hzero : a ≠ 0) (ha : a < 0x80) :
    Char.ofNat a.toNat ∈ lossy bs ↔ a ∈ bs := by
  constructor
  · intro hmem
    obtain ⟨x, hx, hchar⟩ := List.mem_map.mp hmem
    have hnat := toNat_ofNat_of_lt (UInt8.lt_iff_toNat_lt.mp ha)
    exact mem_of_mem_piecesFrom (by simp) hzero ha hx (by rw [hchar, hnat])
  · intro hmem
    obtain ⟨xs, ys, rfl⟩ := List.append_of_mem hmem
    rw [lossy_append_cons xs ys ha]
    exact List.mem_append_right _ List.mem_cons_self

end ProjectLint.Text.Utf8
