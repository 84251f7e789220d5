/-!
# Base 64

Bytes written with sixty-four characters, six bits to each. Characters that are none of these are
passed over, and a complete padding ends the text.

## Main definitions

* `Base64.digit?`: the six bits of a character.
* `Base64.decode?`: the bytes of a text, if its last group is complete.
-/

namespace ProjectLint.Text.Base64

/-- The six bits that a character stands for. -/
def digit? (c : Char) : Option Nat :=
  if 'A' ≤ c ∧ c ≤ 'Z' then some (c.toNat - 65)
  else if 'a' ≤ c ∧ c ≤ 'z' then some (c.toNat - 71)
  else if '0' ≤ c ∧ c ≤ '9' then some (c.toNat + 4)
  else if c = '+' then some 62
  else if c = '/' then some 63
  else none

/-- Reads on after `place` characters of a group, where `bits` are left from the last one and `pads`
signs of padding directly precede. -/
def decodeFrom (place bits pads : Nat) : List Char → Option (List UInt8)
  | [] => if place = 0 then some [] else none
  | c :: cs =>
    if c = '=' then
      if 2 ≤ place ∧ 4 ≤ place + (pads + 1) then some []
      else decodeFrom place bits (if 2 ≤ place then pads + 1 else pads) cs
    else match digit? c with
      | none => decodeFrom place bits pads cs
      | some d =>
        match place with
        | 0 => decodeFrom 1 d 0 cs
        | 1 => (decodeFrom 2 (d % 16) 0 cs).map ((bits * 4 + d / 16).toUInt8 :: ·)
        | 2 => (decodeFrom 3 (d % 4) 0 cs).map ((bits * 16 + d / 4).toUInt8 :: ·)
        | _ => (decodeFrom 0 0 0 cs).map ((bits * 64 + d).toUInt8 :: ·)

/-- The bytes of a text. -/
def decode? (cs : List Char) : Option (List UInt8) := decodeFrom 0 0 0 cs

example : decode? ['T', 'W', 'F', 'u'] = some [0x4d, 0x61, 0x6e] := by decide
example : decode? ['T', 'W', '\n', 'E', '='] = some [0x4d, 0x61] := by decide
example : decode? ['T', 'W', 'E'] = none := by decide

end ProjectLint.Text.Base64
