/-!
# Double precision numbers

A finite number is a sign, a mantissa `m` below `2 ^ 53` and an exponent `e` of at least `-1074`,
and stands for `± m * 2 ^ e`. It is normal form that the mantissa has 53 bits unless the exponent
is the least one. Every operation takes the exact rational result and rounds it once, to the
nearest number and a half to the even one.

## Main definitions

* `Binary64`: not a number, an infinity, or a finite number.
* `Binary64.ofFraction`: the number nearest to a fraction.
* `Binary64.ofInt?`: the number nearest to an integer, unless it is out of range.
* `Binary64.isPositive`, `Binary64.same`, `Binary64.equalsInt`: comparisons.
* `Binary64.add`, `Binary64.mul`: rounded sum and product.
-/

namespace ProjectLint

/-- A double precision number. -/
inductive Binary64
  /-- Not a number. -/
  | nan
  /-- An infinity. -/
  | infinite (negative : Bool)
  /-- The number `± mantissa * 2 ^ exponent`. -/
  | finite (negative : Bool) (mantissa : Nat) (exponent : Int)
  deriving DecidableEq, Repr

namespace Binary64

/-- The least exponent. -/
def minExponent : Int := -1074

/-- The greatest exponent. -/
def maxExponent : Int := 971

/-- Zero, with a sign. -/
def zero (negative : Bool) : Binary64 := .finite negative 0 minExponent

/-! ### Rounding -/

/-- The integer nearest to `n / d`; a half goes to the even one. -/
def roundQuotient (n d : Nat) : Nat :=
  let q := n / d
  let r := n % d
  if 2 * r < d then q else if d < 2 * r then q + 1 else q + q % 2

/-- The power `2 ^ k`. -/
def twoTo (k : Nat) : Nat := Nat.pow 2 k

/-- The fraction `n / d` divided by `2 ^ e`, as a numerator and a denominator. -/
def scale (n d : Nat) (e : Int) : Nat × Nat :=
  if 0 ≤ e then (n, d * twoTo e.toNat) else (n * twoTo (-e).toNat, d)

/-- The exponent of the number nearest to `n / d`, before rounding: the one that leaves 53 bits
before the point, unless it is below the least exponent. -/
def exponentOf (n d : Nat) : Int :=
  let e : Int := (n.log2 : Int) - d.log2 - 53
  let scaled := scale n d e
  max minExponent (if scaled.1 / scaled.2 < twoTo 53 then e else e + 1)

/-- The number nearest to `± n / d`. -/
def ofFraction (negative : Bool) (n d : Nat) : Binary64 :=
  if n = 0 then zero negative
  else
    let e := exponentOf n d
    let scaled := scale n d e
    let m := roundQuotient scaled.1 scaled.2
    let (m, e) := if m = twoTo 53 then (twoTo 52, e + 1) else (m, e)
    if maxExponent < e then .infinite negative else .finite negative m e

/-- The magnitude of `m * 2 ^ e` as a numerator and a denominator. -/
def fraction (m : Nat) (e : Int) : Nat × Nat :=
  if 0 ≤ e then (m * twoTo e.toNat, 1) else (m, twoTo (-e).toNat)

/-- The number nearest to an integer, unless the integer is out of range. -/
def ofInt? (n : Int) : Option Binary64 :=
  match ofFraction (n < 0) n.natAbs 1 with
  | .infinite _ => none
  | x => some x

/-! ### Comparisons -/

/-- A number above zero. -/
def isPositive : Binary64 → Bool
  | nan => false
  | infinite negative => !negative
  | finite negative m _ => !negative && m ≠ 0

/-- A number that is zero. -/
def isZero : Binary64 → Bool
  | finite _ m _ => m = 0
  | _ => false

/-- Equal numbers: the two zeros are equal, and what is not a number equals nothing. -/
def same : Binary64 → Binary64 → Bool
  | nan, _ => false
  | _, nan => false
  | infinite s, infinite t => s = t
  | finite s m e, finite t n f =>
    let x := fraction m e
    let y := fraction n f
    x.1 * y.2 = y.1 * x.2 && (s = t || m = 0)
  | _, _ => false

/-- A number equal to an integer. -/
def equalsInt : Binary64 → Int → Bool
  | finite s m e, n =>
    let x := fraction m e
    x.1 = n.natAbs * x.2 && (m = 0 || s = decide (n < 0))
  | _, _ => false

/-! ### Arithmetic -/

/-- The number with the sign turned. -/
def neg : Binary64 → Binary64
  | nan => nan
  | infinite s => infinite (!s)
  | finite s m e => finite (!s) m e

/-- The signed numerator of a fraction. -/
def signed (negative : Bool) (n : Nat) : Int := if negative then -n else n

/-- The rounded sum. A sum that is exactly zero is positive unless both terms are negative. -/
def add : Binary64 → Binary64 → Binary64
  | nan, _ => nan
  | _, nan => nan
  | infinite s, infinite t => if s = t then infinite s else nan
  | infinite s, finite .. => infinite s
  | finite .., infinite t => infinite t
  | finite s m e, finite t n f =>
    let x := fraction m e
    let y := fraction n f
    let sum := signed s (x.1 * y.2) + signed t (y.1 * x.2)
    if sum = 0 then zero (s && t) else ofFraction (sum < 0) sum.natAbs (x.2 * y.2)

/-- The rounded product. -/
def mul : Binary64 → Binary64 → Binary64
  | nan, _ => nan
  | _, nan => nan
  | infinite s, infinite t => infinite (s != t)
  | infinite s, finite t n _ => if n = 0 then nan else infinite (s != t)
  | finite s m _, infinite t => if m = 0 then nan else infinite (s != t)
  | finite s m e, finite t n f =>
    let x := fraction m e
    let y := fraction n f
    ofFraction (s != t) (x.1 * y.1) (x.2 * y.2)

/-- What is not a number equals nothing, itself included. -/
@[simp] theorem same_nan (x : Binary64) : same nan x = false := rfl

example : ofFraction false 1 10 = finite false 0x1999999999999a (-56) := by decide +kernel
example : ofInt? (2 ^ 53 + 1) = some (finite false (2 ^ 52) 1) := by decide +kernel
example : ofInt? (10 ^ 400) = none := by decide +kernel

end Binary64

end ProjectLint
