import ProjectLint.Yaml.Token.Scalar

/-!
# The tokens of a document

Tokens are read one after another, and no further than is needed to know the next one. A key needs
no indicator of its own; that something was a key is only known when the colon after it is found. So
each place where a key may begin is remembered, and the tokens that mark the key are put in front of
it later. Only a place on the same line, and no more than 1024 characters back, is remembered. The
next token is known when no remembered place stands in front of it.

## Main definitions

* `Yaml.KeyPlace`: a place where a key may begin.
* `Yaml.Reader`: the tokens that wait, the indentation and the remembered places.
* `Yaml.Reader.ready`: reads on until the next token is known.
-/

namespace ProjectLint.Yaml

open Text (Letter)

/-- A place where a key may begin. -/
structure KeyPlace where
  /-- The number of tokens before it. -/
  tokens : Nat
  /-- Whether a key has to begin there, by its indentation. -/
  required : Bool
  index : Nat
  line : Nat
  column : Nat
  deriving DecidableEq, Repr

/-- What is known after some tokens have been read. -/
structure Reader where
  cursor : Cursor
  /-- The tokens that have been read and not been taken. -/
  waiting : List Token
  /-- The number of tokens that have been taken. -/
  taken : Nat
  /-- Whether the end of the text has been read. -/
  ended : Bool
  /-- The indentation of the innermost collection, and minus one outside of all. -/
  indent : Int
  /-- The indentations of the collections around it. -/
  outer : List Int
  /-- The places where a key may begin: of the innermost flow collection first, and last of what is
  outside of all. -/
  places : List (Option KeyPlace)
  /-- Whether a key may begin at the next token. -/
  allowsKey : Bool
  deriving DecidableEq, Repr

namespace Reader

/-- The state before the first token. -/
def start (cs : List Char) : Reader :=
  { cursor := .start cs, waiting := [], taken := 0, ended := false, indent := -1, outer := [],
    places := [none], allowsKey := true }

/-- Whether the next token is inside a flow collection. -/
def inFlow (r : Reader) : Bool := 1 < r.places.length

/-- Adds a token. -/
def push (r : Reader) (t : Token) : Reader := { r with waiting := r.waiting ++ [t] }

/-- Adds a token in front of the ones after the first `n` of all. -/
def insertAt (r : Reader) (n : Nat) (t : Token) : Reader :=
  let before := n - r.taken
  { r with waiting := r.waiting.take before ++ t :: r.waiting.drop before }

/-- The number of tokens that have been read. -/
def read (r : Reader) : Nat := r.taken + r.waiting.length

/-- The place of the innermost collection where a key may begin. -/
def place? (r : Reader) : Option KeyPlace := r.places.headD none

/-- Sets the place of the innermost collection. -/
def setPlace (r : Reader) (p : Option KeyPlace) : Reader :=
  { r with places := p :: r.places.tail }

/-! ### Indentation -/

/-- Ends the collections that are indented by more than `column`, of which at most `fuel` are
left. -/
def unwindWithin (column : Int) : (fuel : Nat) → Reader → Reader
  | 0, r => r
  | fuel + 1, r =>
    if column < r.indent then
      unwindWithin column fuel
        ({ r with indent := r.outer.headD (-1), outer := r.outer.tail }.push .blockEnd)
    else r

/-- Ends the collections that are indented by more than `column`. Inside a flow collection
indentation has no meaning. -/
def unwind (r : Reader) (column : Int) : Reader :=
  if r.inFlow then r else unwindWithin column (r.outer.length + 1) r

/-- Whether a collection at `column` is indented by more than the innermost one. -/
def isDeeper (r : Reader) (column : Nat) : Bool := r.indent < column

/-- Begins a collection at `column`. -/
def deepen (r : Reader) (column : Nat) : Reader :=
  { r with indent := column, outer := r.indent :: r.outer }

/-! ### Places where a key may begin -/

/-- Forgets the places that are too far back. A key that has to be there is then missing. -/
def forgetStale (r : Reader) : Except Fault Reader :=
  let isStale := fun p : KeyPlace =>
    p.line ≠ r.cursor.line || decide (1024 < r.cursor.index - p.index)
  if r.places.any fun p => p.any fun p => isStale p && p.required then .error .malformed
  else .ok { r with places := r.places.map fun p => p.filter fun p => !isStale p }

/-- Forgets the place of the innermost collection. -/
def forget (r : Reader) : Except Fault Reader :=
  if r.place?.any (·.required) then .error .malformed else .ok (r.setPlace none)

/-- Remembers the next token as a place where a key may begin, if one may. -/
def remember (r : Reader) : Except Fault Reader :=
  if r.allowsKey then do
    let required := !r.inFlow && r.indent = r.cursor.column
    let r ← r.forget
    return r.setPlace
      (some ⟨r.read, required, r.cursor.index, r.cursor.line, r.cursor.column⟩)
  else .ok r

/-- Says whether a key may begin at the next token. -/
def allow (r : Reader) (allowed : Bool) : Reader := { r with allowsKey := allowed }

/-- Moves on. -/
def moveTo (r : Reader) (c : Cursor) : Reader := { r with cursor := c }

/-- Adds a token of one character. -/
def pushIndicator (r : Reader) (t : Token) : Reader := (r.moveTo r.cursor.advance).push t

/-! ### One token -/

/-- Leaves all collections before a directive, a marker or the end. -/
def leaveAll (r : Reader) : Except Fault Reader := do
  let r ← (r.unwind (-1)).forget
  return r.allow false

/-- A marker of the beginning or the end of a document. -/
def marker (r : Reader) (t : Token) : Except Fault Reader := do
  let r ← r.leaveAll
  return (r.moveTo (r.cursor.advanceBy 3)).push t

/-- The beginning of a flow collection. -/
def flowStart (r : Reader) (t : Token) : Except Fault Reader := do
  let r ← r.remember
  return ({ r with places := none :: r.places }.allow true).pushIndicator t

/-- The end of a flow collection. One that was not begun ends everything. -/
def flowEnd (r : Reader) (t : Token) : Except Fault Reader := do
  let r ← r.forget
  if r.inFlow then return ({ r with places := r.places.tail }.allow false).pushIndicator t
  else .error .malformed

/-- A comma in a flow collection. -/
def flowEntry (r : Reader) : Except Fault Reader := do
  let r ← (r.allow true).forget
  return r.pushIndicator .flowEntry

/-- Begins a collection of the block style at the next token, unless it goes on with one. -/
def blockStart (r : Reader) (t : Token) : Except Fault Reader :=
  if r.inFlow then .ok r
  else if !r.allowsKey then .error .malformed
  else if r.isDeeper r.cursor.column then .ok ((r.deepen r.cursor.column).push t)
  else .ok r

/-- The indicator of an entry of a block sequence. -/
def blockEntry (r : Reader) : Except Fault Reader := do
  let r ← r.blockStart .blockSequenceStart
  let r ← (r.allow true).forget
  return r.pushIndicator .blockEntry

/-- The indicator of a key. -/
def keyIndicator (r : Reader) : Except Fault Reader := do
  let r ← r.blockStart .blockMappingStart
  let r ← (r.allow !r.inFlow).forget
  return r.pushIndicator .key

/-- The indicator of a value: what was read since the remembered place is its key. -/
def valueIndicator (r : Reader) : Except Fault Reader :=
  match r.place? with
  | some p =>
    let r := (r.setPlace none).insertAt p.tokens .key
    let r :=
      if !r.inFlow ∧ r.isDeeper p.column then
        (r.deepen p.column).insertAt p.tokens .blockMappingStart
      else r
    .ok ((r.allow false).pushIndicator .value)
  | none => do
    let r ← r.blockStart .blockMappingStart
    let r ← (r.allow !r.inFlow).forget
    return r.pushIndicator .value

/-- A token that may be a key, or the beginning of one. -/
def keyCandidate (r : Reader) (scan : Cursor → Except Fault (Token × Cursor)) :
    Except Fault Reader := do
  let r ← r.remember
  let (t, c) ← scan r.cursor
  return ((r.allow false).moveTo c).push t

/-- A block scalar. -/
def block (r : Reader) : Except Fault Reader := do
  let r ← (r.allow true).forget
  let (text, c) ← scanBlock r.indent r.cursor
  return (r.moveTo c).push (.scalar (Letter.ofChars text) false)

/-- A plain scalar. A key may begin after its line. -/
def plain (r : Reader) : Except Fault Reader := do
  let r ← r.remember
  let s := scanPlain r.inFlow (r.indent + 1) r.cursor
  return ((r.allow s.breaks).moveTo s.next).push (.scalar (Letter.ofChars s.text) true)

/-- The characters that begin no plain scalar, the ones that do before a character that is no gap
included. -/
def indicators : List Char :=
  ['-', '?', ':', ',', '[', ']', '\x7b', '\x7d', '#', '&', '*', '!', '|', '>', '\'', '"', '%', '@',
    '\x60']

/-- Whether a plain scalar begins at the next character. -/
def startsPlain (r : Reader) : Bool :=
  let c := r.cursor.peek
  let next := r.cursor.peekAt 1
  (!isGap c && !indicators.contains c) ||
    (!isGap next && (c = '-' || (!r.inFlow && (c = '?' || c = ':'))))

/-- Whether the next character is an indicator of its own: in a flow collection always, elsewhere
before a gap. -/
def atIndicator (r : Reader) : Bool := r.inFlow || isGap (r.cursor.peekAt 1)

/-- The next token, at a place where one begins. -/
def token (r : Reader) : Except Fault Reader :=
  let c := r.cursor
  let x := c.peek
  if x = '%' ∧ c.column = 0 then do
    let r ← r.leaveAll
    let (t, c) ← scanDirective r.cursor
    return (r.moveTo c).push t
  else if c.column = 0 ∧ c.atMarker '-' then r.marker .documentStart
  else if c.column = 0 ∧ c.atMarker '.' then r.marker .documentEnd
  else if x = '[' then r.flowStart .flowSequenceStart
  else if x = '\x7b' then r.flowStart .flowMappingStart
  else if x = ']' then r.flowEnd .flowSequenceEnd
  else if x = '\x7d' then r.flowEnd .flowMappingEnd
  else if x = ',' then r.flowEntry
  else if x = '-' ∧ isGap (c.peekAt 1) then r.blockEntry
  else if x = '?' ∧ r.atIndicator then r.keyIndicator
  else if x = ':' ∧ r.atIndicator then r.valueIndicator
  else if x = '*' then r.keyCandidate fun c => do
    let (name, c) ← scanName c
    return (.alias name, c)
  else if x = '&' then r.keyCandidate fun c => do
    let (name, c) ← scanName c
    return (.anchor name, c)
  else if x = '!' then r.keyCandidate scanTag
  else if (x = '|' ∨ x = '>') ∧ !r.inFlow then r.block
  else if x = '\'' ∨ x = '"' then r.keyCandidate fun c => do
    let (text, c) ← scanQuoted c
    return (.scalar text false, c)
  else if r.startsPlain then r.plain
  else .error .malformed

/-! ### All tokens -/

/-- The place where the next token begins, where at most `fuel` lines are skipped, and whether a
line break was skipped. -/
def skipToToken : (fuel : Nat) → Cursor → Bool → Cursor × Bool
  | 0, c, broken => (c, broken)
  | fuel + 1, c, broken =>
    let c := c.skipSpaces.skipComment
    if isBreak c.peek then skipToToken fuel c.lineBreak.2 true else (c, broken)

/-- The state at the place where the next token begins. Outside of flow collections a key may begin
on a new line. -/
def toToken (r : Reader) : Except Fault Reader := do
  let c := if r.cursor.index = 0 ∧ r.cursor.peek = byteOrderMark then r.cursor.advance else r.cursor
  let (c, broken) := skipToToken c.fuel c false
  let r := (r.moveTo c).allow (r.allowsKey || (broken && !r.inFlow))
  let r ← r.forgetStale
  return r.unwind r.cursor.column

/-- The end of the document. -/
def finish (r : Reader) : Except Fault Reader := do
  let r ← (r.unwind (-1)).forget
  return { r with places := [none], ended := true }.push .streamEnd

/-- Reads on by one step: the end of collections that end here, and a token. -/
def advance (r : Reader) : Except Fault Reader := do
  let r ← r.toToken
  if r.cursor.peek = endMark then r.finish else r.token

/-- Whether a key may begin at the next token. -/
def isUndecided (r : Reader) : Bool := r.places.any fun p => p.any fun p => p.tokens = r.taken

/-- Reads on until the next token is known, by at most `fuel` steps. Nothing is read after the end
of the text. -/
def ready : (fuel : Nat) → Reader → Except Fault Reader
  | 0, r => .ok r
  | fuel + 1, r =>
    if r.ended then .ok r
    else if r.waiting = [] then do ready fuel (← r.advance)
    else do
      let r ← r.forgetStale
      if r.isUndecided then ready fuel (← r.advance) else return r

/-- The next token, which is known. -/
def next (r : Reader) : Token := r.waiting.headD .streamEnd

/-- Takes the next token. -/
def take (r : Reader) : Reader := { r with waiting := r.waiting.tail, taken := r.taken + 1 }

/-- The reader of a text. A character that no document contains leaves nothing to be read. -/
def ofText (cs : List Char) : Except Fault Reader :=
  if cs.all isPrintable then .ok (start cs) else .error .malformed

end Reader

end ProjectLint.Yaml
