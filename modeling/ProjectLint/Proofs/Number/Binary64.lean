import Mathlib.Algebra.Order.Ring.Int
import ProjectLint.Number.Binary64

/-!
# Whole numbers in the range of double precision

A whole number is rounded to a finite number unless it is too great. The greatest finite number is
`2 ^ 1024 - 2 ^ 971`. What lies halfway between it and `2 ^ 1024`, or beyond, is out of range.

## Main definitions

* `Binary64.limit`: the least whole number that is out of range.

## Main results

* `Binary64.exponentOf_one`: the exponent of a whole number.
* `Binary64.ofInt?_eq_none_iff`: the whole numbers that are out of range.
-/

namespace ProjectLint.Binary64

variable {n q half : Nat}

/-- The least whole number that is out of range. -/
def limit : Nat := twoTo 1024 - twoTo 970

theorem twoTo_pos (k : Nat) : 0 < twoTo k := Nat.two_pow_pos k

theorem twoTo_add (j k : Nat) : twoTo (j + k) = twoTo j * twoTo k := Nat.pow_add 2 j k

theorem twoTo_log2_le (hn : n ≠ 0) : twoTo n.log2 ≤ n := Nat.log2_self_le hn

theorem lt_twoTo_succ_log2 : n < twoTo (n.log2 + 1) := Nat.lt_log2_self

theorem twoTo_le_twoTo {j k : Nat} (h : j ≤ k) : twoTo j ≤ twoTo k :=
  Nat.pow_le_pow_right (by decide) h

theorem twoTo_le_pow {base : Nat} (h : 2 ≤ base) (k : Nat) : twoTo k ≤ base ^ k :=
  Nat.pow_le_pow_left h k

/-- The exponent of a whole number leaves 53 bits before the point. -/
theorem exponentOf_one (hn : n ≠ 0) : exponentOf n 1 = n.log2 - 52 := by
  have hone : Nat.log2 1 = 0 := by decide
  have hlow := twoTo_log2_le hn
  have hbits : twoTo 53 ≤ (scale n 1 (n.log2 - 53)).1 / (scale n 1 (n.log2 - 53)).2 := by
    rw [scale]
    split
    · have he : (n.log2 : Int) - 53 = (n.log2 - 53 : Nat) := by omega
      rw [he, Int.toNat_natCast, one_mul]
      refine (Nat.le_div_iff_mul_le (twoTo_pos _)).mpr ?_
      rwa [← twoTo_add, show 53 + (n.log2 - 53) = n.log2 by omega]
    · have he : -((n.log2 : Int) - 53) = (53 - n.log2 : Nat) := by omega
      rw [he, Int.toNat_natCast, Nat.div_one]
      calc twoTo 53 = twoTo n.log2 * twoTo (53 - n.log2) := by
            rw [← twoTo_add, show n.log2 + (53 - n.log2) = 53 by omega]
        _ ≤ n * twoTo (53 - n.log2) := Nat.mul_le_mul_right _ hlow
  rw [exponentOf, hone]
  simp only [Nat.cast_zero, sub_zero, not_lt.mpr hbits, if_false, minExponent]
  omega

/-- A quotient just below an even number is rounded up to it from a half on. -/
theorem roundQuotient_eq_succ_iff (hhalf : 0 < half) (hn : n < (q + 1) * (2 * half))
    (hodd : q % 2 = 1) :
    roundQuotient n (2 * half) = q + 1 ↔ q * (2 * half) + half ≤ n := by
  have hdecompose := Nat.div_add_mod' n (2 * half)
  have hrest := Nat.mod_lt n (show 0 < 2 * half by omega)
  have hle : n / (2 * half) ≤ q :=
    Nat.lt_succ_iff.mp ((Nat.div_lt_iff_lt_mul (by omega)).mpr hn)
  rw [roundQuotient]
  rcases hle.lt_or_eq with hlt | heq
  · have hsmall : n < q * (2 * half) := (Nat.div_lt_iff_lt_mul (by omega)).mp hlt
    grind
  · rw [heq] at hdecompose ⊢
    grind

theorem twoTo_971 : twoTo 971 = 2 * twoTo 970 := by
  have htwo : twoTo 1 = 2 := by decide
  rw [← htwo, ← twoTo_add]

theorem twoTo_1024 : twoTo 1024 = twoTo 53 * (2 * twoTo 970) := by
  rw [← twoTo_971, ← twoTo_add]

theorem limit_eq : limit = (twoTo 53 - 1) * (2 * twoTo 970) + twoTo 970 := by
  have hbits : twoTo 53 = 9007199254740992 := by decide
  rw [limit, twoTo_1024, hbits]
  omega

theorem twoTo_1023_lt_limit : twoTo 1023 < limit := by
  have hhalf := twoTo_pos 970
  have htwo : twoTo 1023 = twoTo 53 * twoTo 970 := twoTo_add 53 970
  have hbits : twoTo 53 = 9007199254740992 := by decide
  rw [limit_eq, htwo, hbits]
  omega

theorem limit_le : limit ≤ twoTo 1024 := Nat.sub_le _ _

/-- Rounding is out of range if the exponent is, after the carry. -/
theorem exists_infinite_iff_exponent (negative : Bool) (hn : n ≠ 0) :
    (∃ s, ofFraction negative n 1 = .infinite s) ↔
      maxExponent < if roundQuotient (scale n 1 (n.log2 - 52)).1 (scale n 1 (n.log2 - 52)).2 =
        twoTo 53 then (n.log2 : Int) - 52 + 1 else n.log2 - 52 := by
  rw [ofFraction, if_neg hn, exponentOf_one hn]
  dsimp only
  split <;> split <;> simp_all

theorem exists_infinite_iff (negative : Bool) :
    (∃ s, ofFraction negative n 1 = .infinite s) ↔ limit ≤ n := by
  by_cases hn : n = 0
  · have hzero : limit ≠ 0 := (Nat.zero_le _).trans_lt twoTo_1023_lt_limit |>.ne'
    simp [ofFraction, hn, zero, hzero]
  have hlow := twoTo_log2_le hn
  have hhigh := lt_twoTo_succ_log2 (n := n)
  rw [exists_infinite_iff_exponent negative hn, maxExponent]
  rcases Nat.lt_trichotomy n.log2 1023 with hless | hequal | hmore
  · have hsmall : n < twoTo 1023 := hhigh.trans_le (twoTo_le_twoTo hless)
    simp only [not_le.mpr (hsmall.trans twoTo_1023_lt_limit), iff_false, not_lt]
    split <;> omega
  · have hscale : scale n 1 (n.log2 - 52) = (n, 2 * twoTo 970) := by
      have hexponent : (n.log2 : Int) - 52 = (971 : Nat) := by omega
      rw [hexponent, scale, if_pos (Int.natCast_nonneg _), one_mul, Int.toNat_natCast, twoTo_971]
    have hbound : n < (twoTo 53 - 1 + 1) * (2 * twoTo 970) := by
      rw [Nat.sub_add_cancel (twoTo_pos 53), ← twoTo_1024]
      rwa [hequal] at hhigh
    have hround := roundQuotient_eq_succ_iff (twoTo_pos 970) hbound (by decide)
    rw [Nat.sub_add_cancel (twoTo_pos 53), ← limit_eq] at hround
    rw [hscale, ← hround]
    split <;> simp_all
  · have hlarge : twoTo 1024 ≤ n := (twoTo_le_twoTo hmore).trans hlow
    have hlimit : limit ≤ n := (Nat.sub_le _ _).trans hlarge
    simp only [hlimit, iff_true]
    split <;> omega

/-- **The whole numbers that are out of range.** -/
theorem ofInt?_eq_none_iff {n : Int} : ofInt? n = none ↔ limit ≤ n.natAbs := by
  rw [← exists_infinite_iff (n < 0), ofInt?]
  cases ofFraction (n < 0) n.natAbs 1 <;> simp

-- The number is too large to be computed by a tactic.
attribute [irreducible] limit

end ProjectLint.Binary64
