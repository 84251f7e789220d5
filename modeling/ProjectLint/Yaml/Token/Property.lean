import ProjectLint.Text.Utf8
import ProjectLint.Yaml.Token.Basic

/-!
# Tokens of names

Anchors, aliases, tags and directives are written with an indicator and names.

## Main definitions

* `Yaml.scanName`: the name of an anchor or an alias.
* `Yaml.scanTag`: a tag.
* `Yaml.scanDirective`: a directive and the rest of its line.
-/

namespace ProjectLint.Yaml

/-- Two hexadecimal digits, or however many are asked for, as a number. -/
def hexNumber? (digits : List Char) : Option Nat :=
  (digits.mapM (Text.digit? 16)).map (Text.Numeral.ofDigits 16)

/-- An ASCII hexadecimal digit. -/
def isHexDigit (c : Char) : Bool := c.isDigit || ('a' ≤ c && c ≤ 'f') || ('A' ≤ c && c ≤ 'F')

/-- The name after the indicator of an anchor or an alias. -/
def scanName (c : Cursor) : Except Fault (List Char × Cursor) :=
  let (name, c) := c.advance.takeWhile isNameChar
  if name = [] then .error .malformed
  else if isGap c.peek || ['?', ':', ',', ']', '\x7d', '%', '@', '\x60'].contains c.peek then
    .ok (name, c)
  else .error .malformed

/-! ### Tags -/

/-- A character of a tag, the percent sign apart. -/
def isTagChar (c : Char) : Bool :=
  c.isAlphanum || ['-', ';', '/', '?', ':', '@', '&', '=', '+', '$', ',', '_', '.', '!', '~', '*',
    '\'', '(', ')', '[', ']'].contains c

/-- The bytes of escapes, each a percent sign and two hexadecimal digits, where at most `fuel` are
read. -/
def scanEscapedBytes : (fuel : Nat) → Cursor → Except Fault (List UInt8 × Cursor)
  | 0, c => .ok ([], c)
  | fuel + 1, c =>
    if c.peek = '%' then
      let c := c.advance
      let digits := c.ahead 2
      if digits.length = 2 ∧ digits.all isHexDigit then do
        let (bytes, c) ← scanEscapedBytes fuel (c.advanceBy 2)
        return (((hexNumber? digits).getD 0).toUInt8 :: bytes, c)
      else .error .malformed
    else .ok ([], c)

/-- The characters of a tag after its handle, where at most `fuel` runs are read. -/
def scanTagCharsWithin : (fuel : Nat) → Cursor → Except Fault (List Char × Cursor)
  | 0, _ => .error .malformed
  | fuel + 1, c =>
    let (plain, c) := c.takeWhile isTagChar
    if c.peek = '%' then do
      let (bytes, c) ← scanEscapedBytes c.fuel c
      match Text.Utf8.strict bytes with
      | .error _ => .error .malformed
      | .ok cs =>
        let (rest, c) ← scanTagCharsWithin fuel c
        return (plain ++ cs ++ rest, c)
    else .ok (plain, c)

/-- The characters of a tag after its handle. There is at least one. -/
def scanTagChars (c : Cursor) : Except Fault (List Char × Cursor) := do
  let (cs, next) ← scanTagCharsWithin c.fuel c
  if next.index = c.index then .error .malformed else return (cs, next)

/-- A tag handle: one exclamation mark, or a name between two. -/
def scanHandle (c : Cursor) : Except Fault (List Char × Cursor) :=
  if c.peek ≠ '!' then .error .malformed
  else
    let (name, c) := c.advance.takeWhile isNameChar
    if c.peek = '!' then .ok ('!' :: name ++ ['!'], c.advance)
    else if name = [] ∧ c.peek = ' ' then .ok (['!'], c)
    else .error .malformed

/-- Whether a tag is written with a handle that ends in a second exclamation mark. -/
def hasHandle (c : Cursor) : Bool :=
  ((c.advance.rest.takeWhile fun x => !isSpaceOrEnd x).contains '!')

/-- A tag. -/
def scanTag (c : Cursor) : Except Fault (Token × Cursor) := do
  let next := c.peekAt 1
  let (handle, suffix, c) ←
    if next = '<' then do
      let (suffix, c) ← scanTagChars (c.advanceBy 2)
      if c.peek = '>' then pure (none, suffix, c.advance) else .error .malformed
    else if isGap next then pure (none, ['!'], c.advance)
    else do
      let (handle, c) ← if hasHandle c then scanHandle c else pure (['!'], c.advance)
      let (suffix, c) ← scanTagChars c
      pure (some handle, suffix, c)
  if isSpaceOrEnd c.peek then return (.tag handle suffix, c) else .error .malformed

/-! ### Directives -/

/-- The rest of a line on which only a comment may stand. -/
def scanIgnoredLine (c : Cursor) : Except Fault Cursor :=
  let c := c.skipSpaces.skipComment
  if isBreakOrEnd c.peek then .ok c.lineBreak.2 else .error .malformed

/-- A number of a version. -/
def scanVersionNumber (c : Cursor) : Except Fault (Nat × Cursor) :=
  let (digits, c) := c.takeWhile Char.isDigit
  if digits = [] then .error .malformed
  else match Text.Numeral.decimal digits with
    | .ok n => .ok (n, c)
    | .error e => .error (.tooLong e)

/-- The value of a directive that gives the version of the format. -/
def scanVersion (c : Cursor) : Except Fault (Directive × Cursor) := do
  let (major, c) ← scanVersionNumber c.skipSpaces
  if c.peek ≠ '.' then .error .malformed
  else
    let (minor, c) ← scanVersionNumber c.advance
    if isSpaceOrEnd c.peek then return (.version major minor, c) else .error .malformed

/-- The value of a directive that says what a tag handle stands for. -/
def scanTagDirective (c : Cursor) : Except Fault (Directive × Cursor) := do
  let (handle, c) ← scanHandle c.skipSpaces
  if c.peek ≠ ' ' then .error .malformed
  else
    let (expansion, c) ← scanTagChars c.skipSpaces
    if isSpaceOrEnd c.peek then return (.handle handle expansion, c) else .error .malformed

/-- A directive and the rest of its line. -/
def scanDirective (c : Cursor) : Except Fault (Token × Cursor) := do
  let (name, c) := c.advance.takeWhile isNameChar
  if name = [] ∨ ¬ isSpaceOrEnd c.peek then .error .malformed
  else
    let (directive, c) ←
      if name = ['Y', 'A', 'M', 'L'] then scanVersion c
      else if name = ['T', 'A', 'G'] then scanTagDirective c
      else pure (Directive.other, c.skipWhile fun x => !isBreakOrEnd x)
    return (.directive directive, ← scanIgnoredLine c)

end ProjectLint.Yaml
