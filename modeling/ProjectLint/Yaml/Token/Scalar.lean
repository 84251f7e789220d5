import ProjectLint.Yaml.Token.Property

/-!
# Scalar tokens

A scalar is plain, quoted or a block. In the first two forms a single line break is folded into a
space and each further one is kept; in a block the indicator after its first character says whether
lines are folded and what becomes of the line breaks at its end.

## Main definitions

* `Yaml.scanPlain`: a plain scalar.
* `Yaml.scanQuoted`: a scalar between single or double quotes.
* `Yaml.scanBlock`: a literal or folded block.
-/

namespace ProjectLint.Yaml

open Text (Letter)

/-- What a line break and the empty lines after it become when lines are folded. -/
def foldBreaks (first : List Char) (others : List Char) : List Char :=
  if first ≠ ['\n'] then first ++ others
  else if others = [] then [' ']
  else others

/-! ### Plain scalars -/

/-- Whether a plain scalar ends at the front of a text: at a gap, at a colon before a gap, and
inside a flow collection also at its punctuation. -/
def endsPlain (inFlow : Bool) : List Char → Bool
  | [] => true
  | c :: cs =>
    isGap c || (inFlow && [',', '?', '[', ']', '\x7b', '\x7d'].contains c) ||
      (c = ':' &&
        (let next := cs.headD endMark
         isGap next || (inFlow && [',', '[', ']', '\x7b', '\x7d'].contains next)))

/-- The number of characters up to the end of a plain scalar on its line. -/
def plainLength (inFlow : Bool) : List Char → Nat
  | [] => 0
  | c :: cs => if endsPlain inFlow (c :: cs) then 0 else plainLength inFlow cs + 1

/-- What stands between two lines of a plain scalar, where at most `fuel` characters are read: the
line breaks, and the place after them. A document marker ends the scalar. -/
def plainBreaks : (fuel : Nat) → Cursor → Option (List Char) × Cursor
  | 0, c => (some [], c)
  | fuel + 1, c =>
    if c.peek = ' ' then plainBreaks fuel c.advance
    else if isBreak c.peek then
      let (b, c) := c.lineBreak
      if c.atDocumentMarker then (none, c)
      else
        let (bs, c) := plainBreaks fuel c
        (bs.map (b ++ ·), c)
    else (some [], c)

/-- The characters between two parts of a plain scalar, and what they become. -/
structure PlainGap where
  text : List Char
  next : Cursor
  /-- Whether there is a line break among them. -/
  breaks : Bool

/-- What follows a part of a plain scalar. -/
def plainGap (c : Cursor) : PlainGap :=
  let (spaces, c) := c.takeWhile (· = ' ')
  if isBreak c.peek then
    let (first, c) := c.lineBreak
    if c.atDocumentMarker then ⟨[], c, true⟩
    else match plainBreaks c.fuel c with
      | (none, c) => ⟨[], c, true⟩
      | (some others, c) => ⟨foldBreaks first others, c, true⟩
  else ⟨spaces, c, false⟩

/-- A plain scalar that has been read. -/
structure PlainScalar where
  text : List Char
  next : Cursor
  /-- Whether a line break follows it. -/
  breaks : Bool

/-- The parts of a plain scalar, where at most `fuel` are read; `pending` stands before the next
one, and lines are indented by at least `indent`. -/
def scanPlainWithin (inFlow : Bool) (indent : Int) :
    (fuel : Nat) → (pending : List Char) → (breaks : Bool) → Cursor → PlainScalar
  | 0, _, breaks, c => ⟨[], c, breaks⟩
  | fuel + 1, pending, breaks, c =>
    let length := if c.peek = '#' then 0 else plainLength inFlow c.rest
    if length = 0 then ⟨[], c, breaks⟩
    else
      let part := c.ahead length
      let gap := plainGap (c.advanceBy length)
      if gap.text = [] ∨ gap.next.peek = '#' ∨ (inFlow = false ∧ (gap.next.column : Int) < indent)
      then ⟨pending ++ part, gap.next, gap.breaks⟩
      else
        let rest := scanPlainWithin inFlow indent fuel gap.text gap.breaks gap.next
        { rest with text := pending ++ part ++ rest.text }

/-- A plain scalar whose lines are indented by at least `indent`. -/
def scanPlain (inFlow : Bool) (indent : Int) (c : Cursor) : PlainScalar :=
  scanPlainWithin inFlow indent c.fuel [] false c

/-! ### Quoted scalars -/

/-- The line breaks between two lines of a quoted scalar, where at most `fuel` lines are read. A
document marker must not stand among them. -/
def quotedBreaks : (fuel : Nat) → Cursor → Except Fault (List Char × Cursor)
  | 0, _ => .error .malformed
  | fuel + 1, c =>
    if c.atDocumentMarker then .error .malformed
    else
      let c := c.skipWhile fun x => x = ' ' || x = '\t'
      if isBreak c.peek then do
        let (b, c) := c.lineBreak
        let (bs, c) ← quotedBreaks fuel c
        return (b ++ bs, c)
      else .ok ([], c)

/-- The blanks between two words of a quoted scalar, and what they become. -/
def quotedGap (c : Cursor) : Except Fault (List Char × Cursor) := do
  let (spaces, c) := c.takeWhile fun x => x = ' ' || x = '\t'
  if c.peek = endMark then .error .malformed
  else if isBreak c.peek then
    let (first, c) := c.lineBreak
    let (others, c) ← quotedBreaks c.fuel c
    return (foldBreaks first others, c)
  else return (spaces, c)

/-- The character that an escape of one letter stands for. -/
def simpleEscape? (c : Char) : Option Char :=
  [('0', '\x00'), ('a', '\x07'), ('b', '\x08'), ('t', '\t'), ('\t', '\t'), ('n', '\n'),
    ('v', '\x0b'), ('f', '\x0c'), ('r', '\r'), ('e', '\x1b'), (' ', ' '), ('"', '"'),
    ('\\', '\\'), ('/', '/'), ('N', '\x85'), ('_', '\xa0'), ('L', '\u2028'),
    ('P', '\u2029')].lookup c

/-- The number of hexadecimal digits that follow the letter of an escape. -/
def escapeWidth? (c : Char) : Option Nat :=
  [('x', 2), ('u', 4), ('U', 8)].lookup c

/-- An escape with hexadecimal digits, and the place after it. -/
def scanCodePoint (width : Nat) (c : Cursor) : Except Fault (Letter × Cursor) :=
  let digits := c.ahead width
  if digits.length = width ∧ digits.all isHexDigit then
    let n := (hexNumber? digits).getD 0
    if 0x10ffff < n then .error (.codePoint n) else .ok (.ofCode n, c.advanceBy width)
  else .error .malformed

/-- An escape of a double quoted scalar, after its backslash. An escaped line break is left out. -/
def scanEscape (c : Cursor) : Except Fault (List Letter × Cursor) :=
  match simpleEscape? c.peek with
  | some x => .ok ([.char x], c.advance)
  | none =>
    match escapeWidth? c.peek with
    | some width => do
      let (x, c) ← scanCodePoint width c.advance
      return ([x], c)
    | none =>
      if isBreak c.peek then do
        let c := c.lineBreak.2
        let (breaks, c) ← quotedBreaks c.fuel c
        return (Letter.ofChars breaks, c)
      else .error .malformed

/-- A character that stands for itself between quotes of either kind. -/
def isQuotedChar (c : Char) : Bool := !(isGap c || c = '\'' || c = '"' || c = '\\')

/-- The letters of a quoted scalar up to a blank or its end, where at most `fuel` runs are read. -/
def scanQuotedWord (double : Bool) : (fuel : Nat) → Cursor → Except Fault (List Letter × Cursor)
  | 0, _ => .error .malformed
  | fuel + 1, c => do
    let (run, c) := c.takeWhile isQuotedChar
    let plain := Letter.ofChars run
    if !double ∧ c.peek = '\'' ∧ c.peekAt 1 = '\'' then
      let (rest, c) ← scanQuotedWord double fuel (c.advanceBy 2)
      return (plain ++ .char '\'' :: rest, c)
    else if (double ∧ c.peek = '\'') ∨ (!double ∧ (c.peek = '"' ∨ c.peek = '\\')) then
      let (rest, next) ← scanQuotedWord double fuel c.advance
      return (plain ++ .char c.peek :: rest, next)
    else if double ∧ c.peek = '\\' then
      let (escaped, c) ← scanEscape c.advance
      let (rest, c) ← scanQuotedWord double fuel c
      return (plain ++ escaped ++ rest, c)
    else return (plain, c)

/-- The words and the blanks of a quoted scalar, where at most `fuel` words are read. -/
def scanQuotedWithin (double : Bool) (quote : Char) :
    (fuel : Nat) → Cursor → Except Fault (List Letter × Cursor)
  | 0, _ => .error .malformed
  | fuel + 1, c => do
    let (word, c) ← scanQuotedWord double c.fuel c
    if c.peek = quote then return (word, c.advance)
    else
      let (gap, c) ← quotedGap c
      let (rest, c) ← scanQuotedWithin double quote fuel c
      return (word ++ Letter.ofChars gap ++ rest, c)

/-- A quoted scalar, from its opening quote on. -/
def scanQuoted (c : Cursor) : Except Fault (List Letter × Cursor) :=
  scanQuotedWithin (c.peek = '"') c.peek c.fuel c.advance

/-! ### Blocks -/

/-- What becomes of the line breaks at the end of a block. -/
inductive Chomping
  /-- One is kept. -/
  | clip
  /-- None is kept. -/
  | strip
  /-- All are kept. -/
  | keep
  deriving DecidableEq, Repr

/-- The chomping that an indicator asks for. -/
def chomping? : Char → Option Chomping
  | '+' => some .keep
  | '-' => some .strip
  | _ => none

/-- The digit that an indentation indicator is; zero is none. -/
def increment? (c : Char) : Except Fault (Option Nat) :=
  if c = '0' then .error .malformed
  else if c.isDigit then .ok (some (c.toNat - '0'.toNat))
  else .ok none

/-- The indicators of a block, in either order. -/
def scanIndicators (c : Cursor) : Except Fault (Chomping × Option Nat × Cursor) := do
  let (chomping, increment, c) ← match chomping? c.peek with
    | some chomping => do
      let c := c.advance
      match ← increment? c.peek with
      | some n => pure (chomping, some n, c.advance)
      | none => pure (chomping, none, c)
    | none => do
      match ← increment? c.peek with
      | some n =>
        let c := c.advance
        match chomping? c.peek with
        | some chomping => pure (chomping, some n, c.advance)
        | none => pure (.clip, some n, c)
      | none => pure (.clip, none, c)
  if isSpaceOrEnd c.peek then return (chomping, increment, c) else .error .malformed

/-- The empty lines at the front of a block, where at most `fuel` characters are read: their line
breaks, the greatest column that their spaces reach, and the place after them. -/
def scanIndentation : (fuel : Nat) → (widest : Nat) → Cursor → List Char × Nat × Cursor
  | 0, widest, c => ([], widest, c)
  | fuel + 1, widest, c =>
    if c.peek = ' ' then
      let c := c.advance
      scanIndentation fuel (max widest c.column) c
    else if isBreak c.peek then
      let (b, c) := c.lineBreak
      let (bs, widest, c) := scanIndentation fuel widest c
      (b ++ bs, widest, c)
    else ([], widest, c)

/-- The place after the spaces that indent a line, where at most `fuel` are skipped. -/
def skipIndent (indent : Nat) : (fuel : Nat) → Cursor → Cursor
  | 0, c => c
  | fuel + 1, c =>
    if c.column < indent ∧ c.peek = ' ' then skipIndent indent fuel c.advance else c

/-- The empty lines inside a block, where at most `fuel` are read, and the place after them and
after the indentation of the next line. -/
def blockBreaks (indent : Nat) : (fuel : Nat) → Cursor → List Char × Cursor
  | 0, c => ([], c)
  | fuel + 1, c =>
    let c := skipIndent indent c.fuel c
    if isBreak c.peek then
      let (b, c) := c.lineBreak
      let (bs, c) := blockBreaks indent fuel c
      (b ++ bs, c)
    else ([], c)

/-- The line break that ends the last line of a block, and the ones after it. -/
structure BlockEnd where
  text : List Char
  last : List Char
  breaks : List Char
  next : Cursor

/-- The lines of a block, where at most `fuel` are read; `breaks` stands before the next one. -/
def blockLines (folded : Bool) (indent : Nat) :
    (fuel : Nat) → (breaks last : List Char) → Cursor → BlockEnd
  | 0, breaks, last, c => ⟨[], last, breaks, c⟩
  | fuel + 1, breaks, last, c =>
    if c.column = indent ∧ c.peek ≠ endMark then
      let isText := fun x : Char => !(x = ' ' || x = '\t')
      let startsText := isText c.peek
      let (line, c) := c.takeWhile fun x => !isBreakOrEnd x
      let (lineEnd, c) := c.lineBreak
      let (following, c) := blockBreaks indent c.fuel c
      if c.column = indent ∧ c.peek ≠ endMark then
        let joint :=
          if folded ∧ lineEnd = ['\n'] ∧ startsText ∧ isText c.peek then
            (if following = [] then [' '] else [])
          else lineEnd
        let rest := blockLines folded indent fuel following lineEnd c
        { rest with text := breaks ++ line ++ joint ++ rest.text }
      else ⟨breaks ++ line, lineEnd, following, c⟩
    else ⟨[], last, breaks, c⟩

/-- A literal or folded block, from its indicator on, inside a collection of the given
indentation. -/
def scanBlock (parentIndent : Int) (c : Cursor) : Except Fault (List Char × Cursor) := do
  let folded := c.peek = '>'
  let (chomping, increment, c) ← scanIndicators c.advance
  let c ← scanIgnoredLine c
  let least := (max (parentIndent + 1) 1).toNat
  let (breaks, indent, c) := match increment with
    | some n =>
      let indent := least + n - 1
      let (breaks, c) := blockBreaks indent c.fuel c
      (breaks, indent, c)
    | none =>
      let (breaks, widest, c) := scanIndentation c.fuel 0 c
      (breaks, max least widest, c)
  let block := blockLines folded indent c.fuel breaks [] c
  let tail := match chomping with
    | .strip => []
    | .clip => block.last
    | .keep => block.last ++ block.breaks
  return (block.text ++ tail, block.next)

end ProjectLint.Yaml
