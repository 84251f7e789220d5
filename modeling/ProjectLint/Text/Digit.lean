/-!
# Digits

The value of a character as a digit: in a base up to sixteen for the ASCII letters and digits,
and in base ten for every decimal digit of the Unicode standard. The decimal digits of a script
stand at ten consecutive code points, so the places of the zeros describe them all.

## Main definitions

* `zeros`: the code points of the zeros of all scripts.
* `decimalDigit?`: the value of a decimal digit of any script.
* `asciiDigit?`: the value of an ASCII digit or letter, the letters of either case from ten on.
-/

namespace ProjectLint.Text

/-- The code points of the digit zero in every script, in increasing order. -/
def zeros : List Nat := [
  0x30, 0x660, 0x6f0, 0x7c0, 0x966, 0x9e6, 0xa66, 0xae6, 0xb66, 0xbe6, 0xc66, 0xce6, 0xd66,
  0xde6, 0xe50, 0xed0, 0xf20, 0x1040, 0x1090, 0x17e0, 0x1810, 0x1946, 0x19d0, 0x1a80, 0x1a90,
  0x1b50, 0x1bb0, 0x1c40, 0x1c50, 0xa620, 0xa8d0, 0xa900, 0xa9d0, 0xa9f0, 0xaa50, 0xabf0, 0xff10,
  0x104a0, 0x10d30, 0x11066, 0x110f0, 0x11136, 0x111d0, 0x112f0, 0x11450, 0x114d0, 0x11650,
  0x116c0, 0x11730, 0x118e0, 0x11950, 0x11c50, 0x11d50, 0x11da0, 0x16a60, 0x16ac0, 0x16b50,
  0x1d7ce, 0x1d7d8, 0x1d7e2, 0x1d7ec, 0x1d7f6, 0x1e140, 0x1e2f0, 0x1e950, 0x1fbf0]

/-- The value of a decimal digit of any script. -/
def decimalDigit? (c : Char) : Option Nat :=
  (zeros.find? fun z => z ≤ c.toNat && c.toNat < z + 10).map (c.toNat - ·)

/-- The value of an ASCII digit, or of an ASCII letter counted on from ten. -/
def asciiDigit? (c : Char) : Option Nat :=
  if '0' ≤ c ∧ c ≤ '9' then some (c.toNat - 48)
  else if 'a' ≤ c ∧ c ≤ 'z' then some (c.toNat - 87)
  else if 'A' ≤ c ∧ c ≤ 'Z' then some (c.toNat - 55)
  else none

/-- The value of `c` as a digit of the given base: a decimal digit of any script or an ASCII
letter, if it is below the base. -/
def digit? (base : Nat) (c : Char) : Option Nat :=
  ((asciiDigit? c).or (decimalDigit? c)).filter (· < base)

example : digit? 10 '7' = some 7 := by decide +kernel
example : digit? 16 'F' = some 15 := by decide +kernel
example : digit? 10 '٣' = some 3 := by decide +kernel
example : digit? 8 '9' = none := by decide +kernel

end ProjectLint.Text
