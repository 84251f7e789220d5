import Mathlib.Data.Rat.Cast.Order
import Mathlib.Tactic.FieldSimp
import ProjectLint.Config.Value
import ProjectLint.Proofs.Number.Binary64

/-!
# Keys of mappings

Two values are the same key if they are the same text, or the same bytes, or the same point of time,
or equal numbers of whatever type. What they have in common is the identity of the key. Lists,
mappings and what is not a number have none, so that they are not even the same key as themselves.

## Main definitions

* `Binary64.rational?`: the number that a finite number stands for.
* `Value.Identity`, `Value.identity?`: what is the same in values that are the same key.

## Main results

* `Value.sameKey_iff`: values are the same key if they have the same identity.
* `Entries.get?_set`: a change of a mapping, as seen by keys.
-/

namespace ProjectLint

/-! ### Equal numbers -/

namespace Binary64

/-- What a number stands for: an infinity, or a point between the infinities. -/
inductive Place
  | infinite (negative : Bool)
  | finite (x : ℚ)

/-- What a double precision number stands for, if it is a number. -/
def place? : Binary64 → Option Place
  | nan => none
  | infinite negative => some (.infinite negative)
  | finite s m e => some (.finite (signed s (fraction m e).1 / (fraction m e).2))

theorem fraction_snd_pos (m : Nat) (e : Int) : 0 < (fraction m e).2 := by
  rw [fraction]
  split
  · exact Nat.one_pos
  · exact twoTo_pos _

theorem fraction_fst_eq_zero_iff {m : Nat} {e : Int} : (fraction m e).1 = 0 ↔ m = 0 := by
  rw [fraction]
  split
  · exact Nat.mul_eq_zero.trans (or_iff_left (twoTo_pos _).ne')
  · rfl

theorem signed_mul (s : Bool) (a d : Nat) : signed s a * d = signed s (a * d) := by
  cases s <;> simp [signed]

theorem signed_eq_signed_iff {s t : Bool} {a b : Nat} :
    signed s a = signed t b ↔ a = b ∧ (s = t ∨ a = 0) := by
  cases s <;> cases t <;> simp [signed] <;> omega

/-- Fractions are equal if their products crosswise are, and their signs unless they are zero. -/
theorem signed_div_eq_iff {s t : Bool} {a b c d : Nat} (hc : 0 < c) (hd : 0 < d) :
    (signed s a : ℚ) / c = signed t b / d ↔ a * d = b * c ∧ (s = t ∨ a = 0) := by
  have hc' : (c : ℚ) ≠ 0 := Nat.cast_ne_zero.mpr hc.ne'
  have hd' : (d : ℚ) ≠ 0 := Nat.cast_ne_zero.mpr hd.ne'
  have hzero : a * d = 0 ↔ a = 0 := Nat.mul_eq_zero.trans (or_iff_left hd.ne')
  rw [div_eq_div_iff hc' hd', ← hzero, ← signed_eq_signed_iff, ← signed_mul, ← signed_mul]
  norm_cast

/-- Numbers are equal if they stand for the same. -/
theorem same_iff {x y : Binary64} :
    x.same y = true ↔ x.place?.isSome = true ∧ x.place? = y.place? := by
  cases x with
  | nan => simp [place?]
  | infinite s => cases y <;> simp [same, place?]
  | finite s m e =>
    cases y with
    | finite t n f =>
      have hdiv := signed_div_eq_iff (s := s) (t := t) (a := (fraction m e).1)
        (b := (fraction n f).1) (fraction_snd_pos m e) (fraction_snd_pos n f)
      rw [fraction_fst_eq_zero_iff] at hdiv
      simp [same, place?, hdiv]
    | _ => simp [same, place?]

/-- A number is equal to a whole number if it stands for it. -/
theorem equalsInt_iff {x : Binary64} {n : Int} :
    x.equalsInt n = true ↔ x.place? = some (.finite n) := by
  cases x with
  | finite s m e =>
    have hn : (n : ℚ) = (signed (n < 0) n.natAbs : ℚ) / (1 : Nat) := by
      have hsigned : n = signed (n < 0) n.natAbs := by
        by_cases h : n < 0 <;> simp only [signed, h, decide_true, decide_false, if_true,
          Bool.false_eq_true, if_false] <;> omega
      rw [Nat.cast_one, div_one, ← hsigned]
    rw [equalsInt, place?, Option.some_inj, Place.finite.injEq, hn,
      signed_div_eq_iff (fraction_snd_pos m e) Nat.one_pos, fraction_fst_eq_zero_iff]
    simp [or_comm]
  | _ => simp [equalsInt, place?]

end Binary64

/-! ### The identity of a key -/

namespace Value

/-- What is the same in values that are the same key. -/
inductive Identity
  | null
  | text (s : String)
  | illFormed (text : List Text.Letter)
  | bytes (bs : List UInt8)
  | date (d : Calendar.Date)
  | moment (isFixed : Bool) (instant : Int)
  | number (x : Binary64.Place)

/-- The identity of a value, if it can be the same key as any value. -/
def identity? : Value → Option Identity
  | null => some .null
  | bool b => some (.number (.finite (if b then 1 else 0 : Int)))
  | int n => some (.number (.finite n))
  | float x => x.place?.map .number
  | str s => some (.text s)
  | illFormed text => some (.illFormed text)
  | bytes bs => some (.bytes bs)
  | date d => some (.date d)
  | moment m => some (.moment m.offset.isSome m.instant)
  | _ => none

/-- Values are the same key if they have the same identity. -/
theorem sameKey_iff {a b : Value} :
    a.sameKey b = true ↔ a.identity?.isSome = true ∧ a.identity? = b.identity? := by
  cases a with
  | float x =>
    cases b with
    | float y =>
      cases hx : x.place? <;> cases hy : y.place? <;>
        simp [sameKey, identity?, Binary64.same_iff, hx, hy]
    | _ =>
      cases hx : x.place? <;> simp [sameKey, identity?, whole?, Binary64.equalsInt_iff, hx]
  | _ =>
    cases b <;>
      simp [sameKey, identity?, whole?, Binary64.equalsInt_iff, Calendar.Moment.same,
        -Int.cast_ite]

/-- The same keys have the same identity. -/
theorem identity?_eq_of_sameKey {a b : Value} (h : a.sameKey b = true) :
    a.identity? = b.identity? :=
  (sameKey_iff.mp h).2

theorem sameKey_comm (a b : Value) : a.sameKey b = b.sameKey a := by
  rw [Bool.eq_iff_iff, sameKey_iff, sameKey_iff]
  constructor <;> rintro ⟨hsome, heq⟩ <;> exact ⟨heq ▸ hsome, heq.symm⟩

/-- The same keys are found in the same places. -/
theorem sameKey_congr {a b : Value} (h : a.sameKey b = true) (k : Value) :
    k.sameKey a = k.sameKey b := by
  rw [Bool.eq_iff_iff, sameKey_iff, sameKey_iff, identity?_eq_of_sameKey h]

end Value

/-! ### Reading and changing a mapping -/

namespace Entries

variable {es : Entries} {key key' value : Value}

theorem get?_congr (h : key.sameKey key' = true) (es : Entries) : get? es key = get? es key' := by
  simp only [get?, Value.sameKey_congr h]

/-- A change at a key changes the value of this key alone. -/
theorem get?_set (key value : Value) (es : Entries) (key' : Value) :
    get? (set es key value) key' = if key.sameKey key' then some value else get? es key' := by
  induction es with
  | nil => rw [set, get?_cons]
  | cons e es ih =>
    obtain ⟨k, v⟩ := e
    rw [set]
    by_cases hk : k.sameKey key = true
    · have hsame : k.sameKey key' = key.sameKey key' := by
        rw [Value.sameKey_comm k, Value.sameKey_congr hk, Value.sameKey_comm]
      rw [if_pos hk, get?_cons, get?_cons, hsame]
      split <;> rfl
    · rw [if_neg hk, get?_cons, get?_cons, ih]
      by_cases hk' : k.sameKey key' = true
      · have hother : key.sameKey key' = false := by
          rw [← Value.sameKey_congr hk', Value.sameKey_comm]
          exact Bool.eq_false_of_not_eq_true hk
        simp [hk', hother]
      · simp [hk']

end Entries

end ProjectLint
