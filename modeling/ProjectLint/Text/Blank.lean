/-!
# Blank characters

Three classes of blanks are used in this library. A report line is cut at the six ASCII blanks.
Around a number every blank of the Unicode standard may stand. The version that a linter prints is
trimmed of all of these, and of the four information separators.

## Main definitions

* `isBlank`: the ASCII blanks.
* `isWideBlank`: every character with the property White_Space, and U+001C to U+001F.
* `isNumberBlank`: the ASCII blanks and every other character with the property White_Space.
* `trimWide`: a text without the wide blanks at its two ends.
* `trimNumber`: a text without the blanks that may stand around a number.
-/

namespace ProjectLint.Text

/-- The ASCII blanks: space, tab, line feed, vertical tab, form feed and carriage return. -/
def isBlank (c : Char) : Bool :=
  c = ' ' || c = '\t' || c = '\n' || c = '\x0b' || c = '\x0c' || c = '\r'

/-- The blanks of the Unicode standard, and the information separators U+001C to U+001F. -/
def isWideBlank (c : Char) : Bool :=
  isBlank c || (0x1c ≤ c.toNat && c.toNat ≤ 0x1f) || c.toNat = 0x85 || c.toNat = 0xa0 ||
    c.toNat = 0x1680 || (0x2000 ≤ c.toNat && c.toNat ≤ 0x200a) || c.toNat = 0x2028 ||
    c.toNat = 0x2029 || c.toNat = 0x202f || c.toNat = 0x205f || c.toNat = 0x3000

/-- The blanks that may stand around a number. -/
def isNumberBlank (c : Char) : Bool := isBlank c || (0x7f < c.toNat && isWideBlank c)

/-- The characters of `cs` without the last ones that satisfy `p`. -/
def dropLastWhile (p : Char → Bool) (cs : List Char) : List Char :=
  (cs.reverse.dropWhile p).reverse

@[simp] theorem dropLastWhile_nil (p : Char → Bool) : dropLastWhile p [] = [] := rfl

/-- A text without the wide blanks at its two ends. -/
def trimWide (cs : List Char) : List Char :=
  dropLastWhile isWideBlank (cs.dropWhile isWideBlank)

/-- A text without the blanks that may stand around a number. -/
def trimNumber (cs : List Char) : List Char :=
  dropLastWhile isNumberBlank (cs.dropWhile isNumberBlank)

end ProjectLint.Text
