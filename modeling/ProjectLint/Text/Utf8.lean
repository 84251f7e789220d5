import ProjectLint.Text.Hex

/-!
# UTF-8

Bytes are read one at a time. Between two bytes the reader has either finished a character or
holds the beginning of one, together with the interval in which its next byte must lie. A byte
outside this interval ends the beginning as an ill-formed part, and is then read afresh; so every
maximal ill-formed part is found, and no part of it is ever counted twice.

## Main definitions

* `Utf8.step`: what one byte adds, and what is held after it.
* `Utf8.pieces`: the characters and the ill-formed parts of a list of bytes, in order.
* `Utf8.lossy`: the text with U+FFFD in place of each ill-formed part.
* `Utf8.strict`: the text, or the first ill-formed part and its position.

## Main results

* `Utf8.piecesFrom_append`: reading may stop anywhere and go on with what is held.
* `Utf8.fresh_ascii`: an ASCII byte read with nothing held is a character.
-/

namespace ProjectLint.Text.Utf8

/-- What is wrong with an ill-formed part. -/
inductive Flaw
  /-- A byte that begins no character. -/
  | start
  /-- A character that is begun and not continued by the next byte. -/
  | continuation
  /-- A character that is begun when the bytes end. -/
  | truncated
  deriving DecidableEq, Repr

/-- What a list of bytes is made of. -/
inductive Piece
  /-- A character. -/
  | char (c : Char)
  /-- A maximal ill-formed part. -/
  | broken (bytes : List UInt8) (flaw : Flaw)
  deriving DecidableEq, Repr

/-- The beginning of a character. -/
structure Pending where
  /-- The bytes read so far. -/
  bytes : List UInt8
  /-- The number that their payload bits make up. -/
  value : Nat
  /-- How many bytes are missing after the next one. -/
  missing : Nat
  /-- The least next byte. -/
  low : UInt8
  /-- The greatest next byte. -/
  high : UInt8
  deriving DecidableEq, Repr

/-- A byte read with nothing held. -/
def fresh (b : UInt8) : List Piece × Option Pending :=
  if b < 0x80 then ([.char (Char.ofNat b.toNat)], none)
  else if b < 0xc2 then ([.broken [b] .start], none)
  else if b < 0xe0 then ([], some ⟨[b], b.toNat % 0x20, 0, 0x80, 0xbf⟩)
  else if b < 0xf0 then
    ([], some ⟨[b], b.toNat % 0x10, 1, if b = 0xe0 then 0xa0 else 0x80,
      if b = 0xed then 0x9f else 0xbf⟩)
  else if b < 0xf5 then
    ([], some ⟨[b], b.toNat % 0x08, 2, if b = 0xf0 then 0x90 else 0x80,
      if b = 0xf4 then 0x8f else 0xbf⟩)
  else ([.broken [b] .start], none)

/-- What one byte adds to the pieces, and what is held after it. -/
def step : Option Pending → UInt8 → List Piece × Option Pending
  | none, b => fresh b
  | some p, b =>
    if p.low ≤ b ∧ b ≤ p.high then
      let value := 0x40 * p.value + b.toNat % 0x40
      match p.missing with
      | 0 => ([.char (Char.ofNat value)], none)
      | missing + 1 => ([], some ⟨p.bytes ++ [b], value, missing, 0x80, 0xbf⟩)
    else (.broken p.bytes .continuation :: (fresh b).1, (fresh b).2)

/-- What is left to report when the bytes end. -/
def flush : Option Pending → List Piece
  | none => []
  | some p => [.broken p.bytes .truncated]

/-- The pieces that bytes add to what is held, and what is held after them. -/
def run (held : Option Pending) : List UInt8 → List Piece × Option Pending
  | [] => ([], held)
  | b :: bs => ((step held b).1 ++ (run (step held b).2 bs).1, (run (step held b).2 bs).2)

/-- The pieces that bytes make up together with what is held. -/
def piecesFrom (held : Option Pending) : List UInt8 → List Piece
  | [] => flush held
  | b :: bs => (step held b).1 ++ piecesFrom (step held b).2 bs

/-- The characters and the ill-formed parts of a list of bytes, in order. -/
def pieces (bytes : List UInt8) : List Piece := piecesFrom none bytes

/-- Reading may stop anywhere and go on with what is held there. -/
theorem piecesFrom_append (bs cs : List UInt8) :
    ∀ held, piecesFrom held (bs ++ cs) = (run held bs).1 ++ piecesFrom (run held bs).2 cs := by
  induction bs with
  | nil => intro held; rfl
  | cons b bs ih => intro held; simp [piecesFrom, run, ih]

/-- An ASCII byte read with nothing held is a character. -/
theorem fresh_ascii {b : UInt8} (h : b < 0x80) :
    fresh b = ([.char (Char.ofNat b.toNat)], none) := if_pos h

/-! ### The two readings -/

/-- The character that a piece stands for; U+FFFD for an ill-formed part. -/
def Piece.toChar : Piece → Char
  | .char c => c
  | .broken _ _ => '\ufffd'

/-- The text with U+FFFD in place of each maximal ill-formed part. -/
def lossy (bytes : List UInt8) : List Char := (pieces bytes).map Piece.toChar

/-- An ill-formed part and the place where it begins. -/
structure Fault where
  /-- The number of bytes before it. -/
  position : Nat
  /-- Its bytes. -/
  bytes : List UInt8
  /-- What is wrong with it. -/
  flaw : Flaw
  deriving DecidableEq, Repr

/-- The wording of a flaw. -/
def Flaw.reason : Flaw → String
  | .start => "invalid start byte"
  | .continuation => "invalid continuation byte"
  | .truncated => "unexpected end of data"

/-- The wording of a fault: its one byte, or the interval that it takes. -/
def Fault.message (f : Fault) : String :=
  let where_ := match f.bytes with
    | [b] => "byte 0x" ++ String.ofList (hex 2 b.toNat) ++ s!" in position {f.position}"
    | bs => s!"bytes in position {f.position}-{f.position + bs.length - 1}"
  "'utf-8' codec can't decode " ++ where_ ++ ": " ++ f.flaw.reason

/-- The characters of the pieces, or the first ill-formed part, at `position` bytes. -/
def strictFrom (position : Nat) : List Piece → Except Fault (List Char)
  | [] => .ok []
  | .char c :: ps => (strictFrom (position + c.utf8Size) ps).map (c :: ·)
  | .broken bytes flaw :: _ => .error ⟨position, bytes, flaw⟩

/-- The text of a well-formed list of bytes, or its first ill-formed part. -/
def strict (bytes : List UInt8) : Except Fault (List Char) := strictFrom 0 (pieces bytes)

example : lossy [0x62, 0xff, 0xe2, 0x82, 0x0a] = ['b', '\ufffd', '\ufffd', '\n'] := by
  decide +kernel
example : strict [0x61, 0xe2, 0x82] = .error ⟨1, [0xe2, 0x82], .truncated⟩ := by rfl

end ProjectLint.Text.Utf8
