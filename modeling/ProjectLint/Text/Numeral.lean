import ProjectLint.Text.Blank
import ProjectLint.Text.Digit

/-!
# Numerals

Whole numbers written with digits. A decimal numeral has at most 4300 digits, leading zeros
included; a longer one is neither read nor written, because that takes time quadratic in its length.
In a base that is a power of two there is no such limit.

## Main definitions

* `Numeral.ofDigits`: the number that a list of digit values denotes in a base.
* `Numeral.decimal`: reads a text of ASCII decimal digits.
* `Numeral.isWritable`: a number that has a decimal numeral.
* `Numeral.read`: reads a signed numeral in a given base, with blanks around it.
-/

namespace ProjectLint.Text.Numeral

/-- The greatest number of digits that a decimal numeral may have. -/
def maxDigits : Nat := 4300

/-- A decimal numeral with more digits than are read. -/
structure TooLong where
  /-- The number of its digits. -/
  digits : Nat
  deriving DecidableEq, Repr

/-- The wording of a refusal. -/
def TooLong.message (e : TooLong) : String :=
  s!"Exceeds the limit ({maxDigits} digits) for integer string conversion: value has {e.digits} " ++
    "digits; use sys.set_int_max_str_digits() to increase the limit"

/-- Whether a number is written as a decimal numeral: it has no more digits than are read. -/
def isWritable (n : Int) : Bool := n.natAbs < Nat.pow 10 maxDigits

/-- The wording of the refusal to write a number. -/
def unwritableText : String :=
  s!"Exceeds the limit ({maxDigits} digits) for integer string conversion; " ++
    "use sys.set_int_max_str_digits() to increase the limit"

/-- The number that a list of digit values denotes, the first one being the most significant. -/
def ofDigits (base : Nat) (ds : List Nat) : Nat :=
  ds.foldl (fun n d => base * n + d) 0

@[simp] theorem ofDigits_nil (base : Nat) : ofDigits base [] = 0 := rfl

/-- One more digit multiplies by the base and adds. -/
@[simp] theorem ofDigits_append_singleton (base : Nat) (ds : List Nat) (d : Nat) :
    ofDigits base (ds ++ [d]) = base * ofDigits base ds + d := by
  simp [ofDigits]

/-- The value of an ASCII decimal digit. -/
def digitValue (c : Char) : Nat := c.toNat - '0'.toNat

/-- The number that a text of ASCII decimal digits denotes. -/
def value (cs : List Char) : Nat := ofDigits 10 (cs.map digitValue)

@[simp] theorem value_nil : value [] = 0 := rfl

/-- The digits of a number denote it. -/
theorem value_toDigits (n : Nat) : value (Nat.toDigits 10 n) = n := by
  calc value (Nat.toDigits 10 n) = Nat.ofDigitChars 10 (Nat.toDigits 10 n) 0 := by
        rw [Nat.ofDigitChars_eq_foldl, value, ofDigits, List.foldl_map]
        rfl
    _ = n := Nat.ofDigitChars_ten_toDigits

/-- Reads a text of ASCII decimal digits, unless there are too many of them. -/
def decimal (cs : List Char) : Except TooLong Nat :=
  if cs.length ≤ maxDigits then .ok (value cs) else .error ⟨cs.length⟩

/-! ### Signed numerals in a base -/

/-- Why a text is no numeral of a base. -/
inductive Fault
  /-- The text is not a sign and digits of the base. -/
  | invalid
  /-- The numeral is decimal and too long. -/
  | tooLong (e : TooLong)
  deriving DecidableEq, Repr

/-- A base whose numerals are read in time proportional to their length. -/
def isPowerBase (base : Nat) : Bool := base = 2 || base = 8 || base = 16

/-- The letter that marks a numeral of the base after a leading zero. -/
def baseMark? : Nat → Option Char
  | 2 => some 'b'
  | 8 => some 'o'
  | 16 => some 'x'
  | _ => none

/-- A numeral without its base mark (`0b`, `0o` or `0x`), if it has the one of the base. -/
def dropMark (base : Nat) : List Char → List Char
  | '0' :: m :: ds => if baseMark? base = some m.toLower then ds else '0' :: m :: ds
  | ds => ds

/-- A sign at the front of a numeral, as a factor, and what follows it. -/
def takeSign : List Char → Int × List Char
  | '-' :: ds => (-1, ds)
  | '+' :: ds => (1, ds)
  | ds => (1, ds)

/-- Reads a signed numeral of the base; blanks around it are skipped and the mark of the base may
stand after the sign. Too many digits are refused before anything that may follow them is seen. -/
def read (base : Nat) (text : List Char) : Except Fault Int :=
  let (sign, rest) := takeSign (trimNumber text)
  let digits := dropMark base rest
  let leading := (digits.takeWhile fun c => (digit? base c).isSome).length
  if isPowerBase base = false ∧ maxDigits < leading then .error (.tooLong ⟨leading⟩)
  else match digits.mapM (digit? base) with
    | none => .error .invalid
    | some ds => if ds = [] then .error .invalid else .ok (sign * ofDigits base ds)

example : read 16 ['1', 'f'] = .ok 31 := rfl
example : read 8 [' ', '-', '0', 'o', '1', '7', ' '] = .ok (-15) := rfl
example : read 2 [] = .error .invalid := rfl

end ProjectLint.Text.Numeral
