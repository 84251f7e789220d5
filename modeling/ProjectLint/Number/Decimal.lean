import ProjectLint.Number.Binary64
import ProjectLint.Text.Blank
import ProjectLint.Text.Digit
import ProjectLint.Text.Numeral

/-!
# Decimal texts of double precision numbers

A number is written with the fewest digits that read back as itself, and with the closest of
these where there are several. It is written positionally when its decimal point falls among or
near the digits, and with an exponent otherwise.

## Main definitions

* `Decimal.shortest`: the digits of a positive number and the place of its decimal point.
* `Binary64.text`: the text of a number.
* `Binary64.read?`: the number that a text denotes.
-/

namespace ProjectLint

open Text

namespace Decimal

/-! ### The fewest digits -/

/-- The power `10 ^ k`. -/
def tenTo (k : Nat) : Nat := Nat.pow 10 k

/-- The greatest `k` with `10 ^ k ≤ n / d`, for a fraction between `10 ^ -400` and `10 ^ 400`. -/
def magnitude (n d : Nat) : Int :=
  if d ≤ n then ((Nat.toDigits 10 (n / d)).length : Int) - 1
  else match (List.range 400).find? fun k => d ≤ n * tenTo k with
    | some k => -k
    | none => -400

/-- The numbers of quarter units of `2 ^ e` between which everything reads as `m * 2 ^ e`: from
half a unit below, or a quarter where the unit below is smaller, to half a unit above. -/
def interval (m : Nat) (e : Int) : Nat × Nat :=
  (if m = Binary64.twoTo 52 ∧ Binary64.minExponent < e then 4 * m - 1 else 4 * m - 2, 4 * m + 2)

/-- Whether `q * 10 ^ p` reads as `m * 2 ^ e`. The ends of the interval do exactly when `m` is
even. -/
def readsAs (m : Nat) (e : Int) (q : Nat) (p : Int) : Bool :=
  let (low, high) := interval m e
  let (n, d) := if 0 ≤ p then (q * tenTo p.toNat, 1) else (q, tenTo (-p).toNat)
  let (n, d) := Binary64.scale n d (e - 2)
  if m % 2 = 0 then low * d ≤ n && n ≤ high * d else low * d < n && n < high * d

/-- The multiple of `10 ^ p` that reads as `m * 2 ^ e` and is nearest to it, if there is one. Only
the two neighbours on the grid can be; where both are equally near the even one is taken. -/
def onGrid (m : Nat) (e : Int) (p : Int) : Option Nat :=
  let (n, d) := Binary64.fraction m e
  let (n, d) := if 0 ≤ p then (n, d * tenTo p.toNat) else (n * tenTo (-p).toNat, d)
  let nearest := Binary64.roundQuotient n d
  let other := if nearest = n / d then n / d + 1 else n / d
  if readsAs m e nearest p then some nearest
  else if readsAs m e other p then some other
  else none

/-- A text of digits without the zeros at its end. -/
def dropZeros (ds : List Char) : List Char := dropLastWhile (· = '0') ds

/-- The fewest digits that read as the positive number `m * 2 ^ e`, and the number of them that
stand before the decimal point. -/
def shortest (m : Nat) (e : Int) : List Char × Int :=
  let (n, d) := Binary64.fraction m e
  let k := magnitude n d
  let found := (List.range 17).findSome? fun (i : Nat) =>
    (onGrid m e (k - i)).map fun q => (q, k - (i : Int))
  match found with
  | none => (['0'], 1)
  | some (q, p) =>
    let ds := Nat.toDigits 10 q
    (dropZeros ds, ds.length + p)

/-! ### The two notations -/

/-- Digits with a decimal point after the first `point` of them; at least one digit stands on either
side of it. -/
def positional (ds : List Char) (point : Int) : List Char :=
  if point ≤ 0 then '0' :: '.' :: List.replicate (-point).toNat '0' ++ ds
  else if ds.length ≤ point.toNat then
    ds ++ List.replicate (point.toNat - ds.length) '0' ++ ['.', '0']
  else ds.take point.toNat ++ '.' :: ds.drop point.toNat

/-- Digits with an exponent: the point follows the first digit, and the exponent has a sign and at
least two digits. -/
def scientific (ds : List Char) (point : Int) : List Char :=
  let x := point - 1
  let digits := Nat.toDigits 10 x.natAbs
  let mantissa := match ds with
    | [] => ['0']
    | [d] => [d]
    | d :: rest => d :: '.' :: rest
  mantissa ++ 'e' :: (if x < 0 then '-' else '+') ::
    (if digits.length < 2 then '0' :: digits else digits)

/-- A number is written positionally from a ten-thousandth up to below `10 ^ 16`. -/
def layout (ds : List Char) (point : Int) : List Char :=
  if -4 < point ∧ point ≤ 16 then positional ds point else scientific ds point

/-! ### Reading -/

/-- The double nearest to `digits * 10 ^ x`. A numeral that is far out of range is not multiplied
out. -/
def nearest (negative : Bool) (digits : List Nat) (x : Int) : Binary64 :=
  let n := Numeral.ofDigits 10 digits
  let significant : Int := (digits.dropWhile (· = 0)).length
  if n = 0 then Binary64.zero negative
  else if 310 < significant + x then .infinite negative
  else if significant + x < -330 then Binary64.zero negative
  else if 0 ≤ x then Binary64.ofFraction negative (n * tenTo x.toNat) 1
  else Binary64.ofFraction negative n (tenTo (-x).toNat)

/-- The digits at the front of a text, and the rest. -/
def digits (cs : List Char) : List Nat × List Char :=
  let isDigit := fun c => (digit? 10 c).isSome
  ((cs.takeWhile isDigit).filterMap (digit? 10), cs.dropWhile isDigit)

/-- The exponent that ends a numeral: none, or a letter, a sign if there is one, and digits. -/
def exponent? : List Char → Option Int
  | [] => some 0
  | c :: cs =>
    if c = 'e' ∨ c = 'E' then
      let (sign, rest) := Numeral.takeSign cs
      match digits rest with
      | ([], _) => none
      | (ds, []) => some (sign * Numeral.ofDigits 10 ds)
      | _ => none
    else none

/-- The number that a text denotes after its sign: digits with a point among them or not, and an
exponent or none. -/
def unsigned? (negative : Bool) (cs : List Char) : Option Binary64 :=
  let (whole, rest) := digits cs
  let (part, rest) := match rest with
    | '.' :: rest => digits rest
    | rest => ([], rest)
  if whole = [] ∧ part = [] then none
  else (exponent? rest).map fun x => nearest negative (whole ++ part) (x - part.length)

end Decimal

namespace Binary64

/-- The text of a number. -/
def text : Binary64 → String
  | nan => "nan"
  | infinite negative => if negative then "-inf" else "inf"
  | finite negative m e =>
    let (ds, point) := if m = 0 then (['0'], 1) else Decimal.shortest m e
    String.ofList ((if negative then ['-'] else []) ++ Decimal.layout ds point)

/-- The number that a text denotes: blanks around it and a sign in front of it are allowed, and the
words for what is not a finite number are known in any mixture of cases. -/
def read? (cs : List Char) : Option Binary64 :=
  let cs := trimNumber cs
  let negative := cs.head? = some '-'
  let rest := (Numeral.takeSign cs).2
  let word := String.ofList (rest.map Char.toLower)
  if word = "inf" ∨ word = "infinity" then some (.infinite negative)
  else if word = "nan" then some .nan
  else Decimal.unsigned? negative rest

end Binary64

example : (Binary64.ofFraction false 1 10).text = "0.1" := by decide +kernel
example : (Binary64.finite false 1 (-1074)).text = "5e-324" := by decide +kernel
example : Binary64.read? ['-', '1', '.', '5', 'e', '+', '2'] = Binary64.ofInt? (-150) := by
  decide +kernel

end ProjectLint
