import ProjectLint.Config.Value
import ProjectLint.Text.Base64
import ProjectLint.Text.LowerCase
import ProjectLint.Yaml.Kind
import ProjectLint.Yaml.Fault

/-!
# Values of scalars

The value that a text has as a scalar of a given kind. The kind is named by a tag or implied by the
text, and in the first case the text need not have the form of the kind.

## Main definitions

* `Yaml.intValue`, `Yaml.floatValue`: numbers, also in base sixty.
* `Yaml.timestampValue`: dates and times.
* `Yaml.scalarValue`: the value of a scalar of any kind.
-/

namespace ProjectLint.Yaml

open Text

/-! ### Numbers -/

/-- A numeral without the underscores that group its digits. -/
def withoutGrouping (ls : List Letter) : List Letter := ls.filter (· ≠ .char '_')

/-- A sign and what follows it; there has to be something. -/
def signed (ls : List Letter) : Except Fault (Bool × List Letter) :=
  match ls with
  | [] => .error .emptyNumber
  | .char '-' :: rest => .ok (true, rest)
  | .char '+' :: rest => .ok (false, rest)
  | ls => .ok (false, ls)

/-- A whole number in a base. -/
def inBase (base : Nat) (ls : List Letter) : Except Fault Int :=
  match Numeral.read base (ls.map Letter.toChar) with
  | .ok n => .ok n
  | .error .invalid => .error (.numeral base ls)
  | .error (.tooLong e) => .error (.tooLong e)

/-- A number of base sixty from its digits, the most significant first. -/
def ofSixties (ds : List Int) : Int := ds.foldl (fun n d => 60 * n + d) 0

/-- The magnitude of a whole number: the front of its text tells its base. -/
def magnitude (ls : List Letter) : Except Fault Int :=
  match ls with
  | [] => .error .emptyNumber
  | [.char '0'] => .ok 0
  | .char '0' :: .char 'b' :: ds => inBase 2 ds
  | .char '0' :: .char 'x' :: ds => inBase 16 ds
  | .char '0' :: ds => inBase 8 (.char '0' :: ds)
  | ls =>
    if .char ':' ∈ ls then ofSixties <$> (ls.splitOn (.char ':')).mapM (inBase 10)
    else inBase 10 ls

/-- The value of a whole number. -/
def intValue (text : List Letter) : Except Fault Int := do
  let (negative, ls) ← signed (withoutGrouping text)
  let n ← magnitude ls
  return if negative then -n else n

/-- A number that may have a point and an exponent. -/
def decimalNumber (ls : List Letter) : Except Fault Binary64 :=
  match Binary64.read? (ls.map Letter.toChar) with
  | some x => .ok x
  | none => .error (.number ls)

/-- The sum of the digits of a number of base sixty, the least significant first, where the first of
them counts `unit`. -/
def sumSixties (sum : Binary64) (unit : Int) : List Binary64 → Except Fault Binary64
  | [] => .ok sum
  | d :: ds =>
    match Binary64.ofInt? unit with
    | none => .error .overflow
    | some u => sumSixties (sum.add (d.mul u)) (60 * unit) ds

/-- The usual spelling of what is not a number, after a sign. -/
def usualNan : List Letter := Letter.ofChars ['.', 'n', 'a', 'n']

/-- The usual spelling of an infinity, after a sign. -/
def usualInfinity : List Letter := Letter.ofChars ['.', 'i', 'n', 'f']

/-- A number with a point as it is read: grouping and the case of letters have no meaning. -/
def floatText (text : List Letter) : List Letter := lowerCase (withoutGrouping text)

/-- Whether a text is a usual spelling of what is not a number. -/
def isUsualNan (text : List Letter) : Bool :=
  match signed (floatText text) with
  | .ok (_, ls) => ls = usualNan
  | .error _ => false

/-- The value of a number with a point. -/
def floatValue (text : List Letter) : Except Fault Binary64 := do
  let (negative, ls) ← signed (floatText text)
  let x ←
    if ls = usualInfinity then pure (Binary64.infinite false)
    else if ls = usualNan then pure Binary64.nan
    else if .char ':' ∈ ls then do
      let ds ← (ls.splitOn (.char ':')).mapM decimalNumber
      sumSixties (Binary64.zero false) 1 ds.reverse
    else decimalNumber ls
  return if negative then x.neg else x

/-! ### Words -/

/-- The truth value that a word stands for, in any case. -/
def truthValue (text : List Letter) : Except Fault Bool :=
  let word := lowerCase text
  let chars := word.map Letter.toChar
  if [['y', 'e', 's'], ['t', 'r', 'u', 'e'], ['o', 'n']].contains chars then .ok true
  else if [['n', 'o'], ['f', 'a', 'l', 's', 'e'], ['o', 'f', 'f']].contains chars then .ok false
  else .error (.truthValue word)

/-! ### Dates -/

/-- The number that at most `most` digits at the front of a text denote, and what follows them.
There are at least `least` of them. -/
def digits? (least most : Nat) (cs : List Char) : Option (Nat × List Char) :=
  let ds := (cs.take most).takeWhile Char.isDigit
  if least ≤ ds.length then some (Numeral.value ds, cs.drop ds.length) else none

/-- What follows the blanks at the front of a text. -/
def dropBlanks (cs : List Char) : List Char := cs.dropWhile fun c => c = ' ' || c = '\t'

/-- The microseconds that the digits after a point denote; digits beyond the sixth are dropped. -/
def microseconds (ds : List Char) : Nat :=
  let six := ds.take 6
  Numeral.value (six ++ List.replicate (6 - six.length) '0')

/-- The offset at the end of a time, in minutes: none, universal time, or a sign with hours and
perhaps minutes. -/
def offset? (cs : List Char) : Option (Option Int) :=
  if cs = [] then some none
  else match dropBlanks cs with
    | ['Z'] => some (some 0)
    | sign :: rest => do
      let (hours, rest) ← digits? 1 2 rest
      let minutes ← match rest with
        | [] => some 0
        | ':' :: rest => match digits? 2 2 rest with
          | some (n, []) => some n
          | _ => none
        | _ => none
      let total : Int := hours * 60 + minutes
      if sign = '+' then some (some total)
      else if sign = '-' then some (some (-total))
      else none
    | [] => none

/-- What follows the separator of a date and a time. -/
def afterDate? (cs : List Char) : Option (List Char) :=
  match cs with
  | 'T' :: rest => some rest
  | 't' :: rest => some rest
  | cs => if (dropBlanks cs).length < cs.length then some (dropBlanks cs) else none

/-- A time of day with the offset of its clock. -/
def time? (cs : List Char) : Option (Calendar.Time × Option Int) := do
  let (hour, cs) ← digits? 1 2 (← afterDate? cs)
  let (minute, cs) ← digits? 2 2 (← Kind.afterChar? ':' cs)
  let (second, cs) ← digits? 2 2 (← Kind.afterChar? ':' cs)
  let (micro, cs) := match cs with
    | '.' :: rest => (microseconds (rest.takeWhile Char.isDigit), rest.dropWhile Char.isDigit)
    | cs => (0, cs)
  return (⟨hour, minute, second, micro⟩, ← offset? cs)

/-- A date, and a time on it if there is one. -/
def timestamp? (cs : List Char) : Option (Calendar.Date × Option (Calendar.Time × Option Int)) := do
  let (year, cs) ← digits? 4 4 cs
  let (month, cs) ← digits? 1 2 (← Kind.afterChar? '-' cs)
  let (day, cs) ← digits? 1 2 (← Kind.afterChar? '-' cs)
  if cs = [] then return (⟨year, month, day⟩, none)
  else return (⟨year, month, day⟩, some (← time? cs))

/-- An offset that is shorter than a day. -/
def checkOffset : Option Int → Except Fault Unit
  | none => .ok ()
  | some n =>
    if n.natAbs < Calendar.minutesInDay then .ok () else .error (.calendar (.offset n))

/-- The value of a date, or of a time on it. -/
def timestampValue (text : List Char) : Except Fault Value :=
  match timestamp? (Kind.withoutBreak text) with
  | none => .error .timestamp
  | some (date, none) => do
    date.check.mapError .calendar
    return .date date
  | some (date, some (time, offset)) => do
    checkOffset offset
    date.check.mapError .calendar
    time.check.mapError .calendar
    return .moment ⟨date, time, offset⟩

/-! ### Bytes -/

/-- The bytes that a text denotes in base 64; it has ASCII characters alone. -/
def binaryValue (text : List Char) : Except Fault Value :=
  if text.all (·.toNat < 0x80) then
    match Base64.decode? text with
    | some bs => .ok (.bytes bs)
    | none => .error .malformed
  else .error .malformed

/-- The value of a text as a scalar. A kind of collections has no scalars. -/
def scalarValue (text : List Letter) : Kind → Except Fault Value
  | .null => .ok .null
  | .bool => Value.bool <$> truthValue text
  | .int => Value.int <$> intValue text
  | .float => Value.float <$> floatValue text
  | .binary => binaryValue (text.map Letter.toChar)
  | .timestamp => timestampValue (text.map Letter.toChar)
  | .str => .ok (.ofLetters text)
  | _ => .error .malformed

example : intValue (Letter.ofChars ['1', ':', '3', '0']) = .ok 90 := rfl
example : intValue (Letter.ofChars ['-', '0', '1', '_', '0']) = .ok (-8) := rfl

end ProjectLint.Yaml
