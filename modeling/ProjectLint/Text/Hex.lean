/-!
# Hexadecimal digits

## Main definitions

* `hexDigit`: the lower-case digit of a number below sixteen.
* `hex`: a number with exactly the given count of digits, the higher ones being dropped.
-/

namespace ProjectLint.Text

/-- The lower-case hexadecimal digit of a number below sixteen. -/
def hexDigit (n : Nat) : Char :=
  Char.ofNat (if n < 10 then 48 + n else 87 + n)

/-- The last `width` hexadecimal digits of a number, the most significant first. -/
def hex : (width : Nat) → Nat → List Char
  | 0, _ => []
  | width + 1, n => hex width (n / 16) ++ [hexDigit (n % 16)]

example : hex 4 0x20ac = ['2', '0', 'a', 'c'] := rfl

end ProjectLint.Text
