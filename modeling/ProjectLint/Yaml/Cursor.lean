import ProjectLint.Yaml.Fault

/-!
# Places in a document

A cursor stands between two characters of a document and knows its line and its column. The end of
the document counts as a NUL character, which no document contains.

## Main definitions

* `Yaml.isPrintable`: the characters that a document may contain.
* `Yaml.Cursor`: a place in a document.
* `Yaml.Cursor.advance`: the next place.
* `Yaml.Cursor.takeWhile`: the characters up to a place, and the place.
* `Yaml.Cursor.lineBreak`: the line break at a place.
-/

namespace ProjectLint.Yaml

/-! ### Classes of characters -/

/-- The characters that a document may contain. -/
def isPrintable (c : Char) : Bool :=
  c = '\t' || c = '\n' || c = '\r' || (0x20 ≤ c.toNat && c.toNat ≤ 0x7e) || c.toNat = 0x85 ||
    (0xa0 ≤ c.toNat && c.toNat ≤ 0xd7ff) || (0xe000 ≤ c.toNat && c.toNat ≤ 0xfffd) ||
    0x10000 ≤ c.toNat

/-- The character that stands for the end of a document. -/
def endMark : Char := '\x00'

/-- A character that breaks lines. -/
def isBreak (c : Char) : Bool :=
  c = '\r' || c = '\n' || c = '\x85' || c = '\u2028' || c = '\u2029'

/-- A line break or the end. -/
def isBreakOrEnd (c : Char) : Bool := c = endMark || isBreak c

/-- A space, a line break or the end. -/
def isSpaceOrEnd (c : Char) : Bool := c = ' ' || isBreakOrEnd c

/-- A space, a tab, a line break or the end. -/
def isGap (c : Char) : Bool := c = '\t' || isSpaceOrEnd c

/-- A character of a name: an ASCII letter or digit, a hyphen or an underscore. -/
def isNameChar (c : Char) : Bool := c.isAlphanum || c = '-' || c = '_'

/-- The mark that may stand at the front of a document and takes no column. -/
def byteOrderMark : Char := '\ufeff'

/-! ### Cursors -/

/-- A place in a document. -/
structure Cursor where
  /-- What follows. -/
  rest : List Char
  /-- The number of characters before. -/
  index : Nat
  /-- The number of line breaks before. -/
  line : Nat
  /-- The number of characters before on the same line. -/
  column : Nat
  deriving DecidableEq, Repr

namespace Cursor

/-- The place at the front of a document. -/
def start (cs : List Char) : Cursor := ⟨cs, 0, 0, 0⟩

/-- The character after `n` more ones. -/
def peekAt (c : Cursor) (n : Nat) : Char := (c.rest[n]?).getD endMark

/-- The next character. -/
def peek (c : Cursor) : Char := c.rest.headD endMark

/-- The next `n` characters. -/
def ahead (c : Cursor) (n : Nat) : List Char := c.rest.take n

/-- The place after the next character. A carriage return before a line feed does not break the
line by itself. -/
def advance (c : Cursor) : Cursor :=
  match c.rest with
  | [] => c
  | x :: rest =>
    if isBreak x ∧ ¬ (x = '\r' ∧ rest.head? = some '\n') then ⟨rest, c.index + 1, c.line + 1, 0⟩
    else ⟨rest, c.index + 1, c.line, if x = byteOrderMark then c.column else c.column + 1⟩

/-- The place after the next `n` characters. -/
def advanceBy (c : Cursor) : Nat → Cursor
  | 0 => c
  | n + 1 => c.advance.advanceBy n

/-- The characters that satisfy `p`, and the place after them. -/
def takeWhile (c : Cursor) (p : Char → Bool) : List Char × Cursor :=
  let taken := c.rest.takeWhile p
  (taken, c.advanceBy taken.length)

/-- The place after the characters that satisfy `p`. -/
def skipWhile (c : Cursor) (p : Char → Bool) : Cursor := (c.takeWhile p).2

/-- The place after the spaces. -/
def skipSpaces (c : Cursor) : Cursor := c.skipWhile (· = ' ')

/-- The place after a comment, if one begins here. -/
def skipComment (c : Cursor) : Cursor :=
  if c.peek = '#' then c.skipWhile fun x => !isBreakOrEnd x else c

/-- The line break at a place and the place after it. The breaks of one character that every system
knows are all read as a line feed; where there is none nothing is read. -/
def lineBreak (c : Cursor) : List Char × Cursor :=
  if c.peek = '\r' ∧ c.peekAt 1 = '\n' then (['\n'], c.advanceBy 2)
  else if c.peek = '\r' ∨ c.peek = '\n' ∨ c.peek = '\x85' then (['\n'], c.advance)
  else if isBreak c.peek then ([c.peek], c.advance)
  else ([], c)

/-- Whether a marker of the given character stands here: three of them and a gap. -/
def atMarker (c : Cursor) (x : Char) : Bool :=
  c.ahead 3 = [x, x, x] && isGap (c.peekAt 3)

/-- Whether the beginning or the end of a document is marked here. -/
def atDocumentMarker (c : Cursor) : Bool := c.atMarker '-' || c.atMarker '.'

/-- A number of steps that is enough to reach the end of the document. -/
def fuel (c : Cursor) : Nat := c.rest.length + 1

@[simp] theorem peek_start (x : Char) (cs : List Char) : (start (x :: cs)).peek = x := rfl

end Cursor

end ProjectLint.Yaml
