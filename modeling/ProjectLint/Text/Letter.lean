import ProjectLint.Text.Hex

/-!
# Letters

A text may name the code point of a letter by its number, and so also one that is no character: a
half of a surrogate pair. A text with halves can be shown and compared, but it is no sequence of
characters. It can be handed to the system as bytes only if each half in it was made from a byte
that was no text, and it then stands for this byte.

## Main definitions

* `Letter`: a character, or a half of a surrogate pair.
* `Letter.ofCode`: the letter of a code point.
* `Letter.ofText`, `Letter.toText`: the letters of a text, and back.
* `Letter.characters?`: the characters of a text without halves.
* `Letter.encode`: the bytes that letters stand for.

## Main results

* `Letter.characters?_eq_some_iff`: which text has given characters.
-/

namespace ProjectLint.Text

/-- A letter of a text. -/
inductive Letter
  | char (c : Char)
  /-- A half of a surrogate pair, by its code point. -/
  | half (code : Nat)
  deriving DecidableEq, Repr

namespace Letter

/-- The letters of a text of characters. -/
def ofChars (cs : List Char) : List Letter := cs.map char

/-- The letters of a text. -/
def ofText (s : String) : List Letter := ofChars s.toList

/-- The letter of a code point. -/
def ofCode (n : Nat) : Letter :=
  if 0xd800 ≤ n ∧ n ≤ 0xdfff then half n else char (Char.ofNat n)

/-- The character that a letter is; U+FFFD for a half of a pair, which is no digit, no blank and no
letter of any word. -/
def toChar : Letter → Char
  | char c => c
  | half _ => '\ufffd'

/-- The text of letters, with U+FFFD in place of halves. -/
def toText (ls : List Letter) : String := String.ofList (ls.map toChar)

/-- Whether a letter is a half of a pair. -/
def isHalf : Letter → Bool
  | char _ => false
  | half _ => true

/-- The characters of a text that has no halves. -/
def characters? : List Letter → Option (List Char)
  | [] => some []
  | char c :: ls => (characters? ls).map (c :: ·)
  | half _ :: _ => none

@[simp] theorem map_toChar_ofChars (cs : List Char) : (ofChars cs).map toChar = cs := by
  simp [ofChars, Function.comp_def, toChar]

@[simp] theorem toText_ofText (s : String) : toText (ofText s) = s := by
  simp [toText, ofText]

theorem ofText_injective {s t : String} (h : ofText s = ofText t) : s = t := by
  rw [← toText_ofText s, h, toText_ofText]

/-- A text has given characters exactly when it is made of them. -/
theorem characters?_eq_some_iff {ls : List Letter} {cs : List Char} :
    characters? ls = some cs ↔ ls = ofChars cs := by
  induction ls generalizing cs with
  | nil => cases cs <;> simp [characters?, ofChars]
  | cons l ls ih =>
    cases l with
    | half code => cases cs <;> simp [characters?, ofChars]
    | char c =>
      rw [characters?, Option.map_eq_some_iff]
      constructor
      · rintro ⟨ds, hds, rfl⟩
        rw [ih.mp hds]
        rfl
      · intro h
        cases cs with
        | nil => cases h
        | cons d cs =>
          obtain ⟨⟨⟩, rfl⟩ := List.cons.inj h
          exact ⟨cs, ih.mpr rfl, rfl⟩

@[simp] theorem characters?_ofChars (cs : List Char) : characters? (ofChars cs) = some cs :=
  characters?_eq_some_iff.mpr rfl

/-! ### Bytes -/

/-- The bytes that a letter stands for. The halves from U+DC80 to U+DCFF stand for the bytes from
which they were made; the others stand for none. -/
def bytes? : Letter → Option (List UInt8)
  | char c => some (String.utf8EncodeChar c)
  | half code => if 0xdc80 ≤ code ∧ code ≤ 0xdcff then some [UInt8.ofNat code] else none

/-- Halves that stand for no bytes. -/
structure EncodeFault where
  /-- The number of letters in front of them. -/
  position : Nat
  /-- The first half that stands for no byte, with all halves that follow it. -/
  halves : List Letter
  deriving DecidableEq, Repr

/-- The wording of a fault: its one half, or the interval that it takes. -/
def EncodeFault.message (f : EncodeFault) : String :=
  let place := match f.halves with
    | [half code] =>
      "character '\\u" ++ String.ofList (hex 4 code) ++ s!"' in position {f.position}"
    | halves => s!"characters in position {f.position}-{f.position + halves.length - 1}"
  s!"'utf-8' codec can't encode {place}: surrogates not allowed"

/-- The bytes that letters stand for, the first of which is at `position` letters. -/
def encodeFrom (position : Nat) : List Letter → Except EncodeFault (List UInt8)
  | [] => .ok []
  | l :: ls =>
    match l.bytes? with
    | some bytes => (encodeFrom (position + 1) ls).map (bytes ++ ·)
    | none => .error ⟨position, l :: ls.takeWhile isHalf⟩

/-- The bytes that letters stand for. -/
def encode (ls : List Letter) : Except EncodeFault (List UInt8) := encodeFrom 0 ls

example : (encode [half 0xdcff, half 0xd800, half 0xdcff]).mapError EncodeFault.message =
    .error "'utf-8' codec can't encode characters in position 1-2: surrogates not allowed" := by
  rfl

end Letter

end ProjectLint.Text
