import ProjectLint.Calendar
import ProjectLint.Number.Decimal
import ProjectLint.Text.Letter
import ProjectLint.Text.Numeral
import ProjectLint.Text.Quoted

/-!
# Configuration data

The values that a configuration file can hold. A mapping keeps its entries in the order in which
their keys first occurred. Numbers that are equal are the same key, and a truth value counts as
zero or one; the spelling that came first stays.

## Main definitions

* `Value`: a value, and `Entries`, the entries of a mapping.
* `Value.ofLetters`, `Value.letters?`: texts and their letters.
* `Value.sameKey`: values that are the same key.
* `Entries.get?`, `Entries.set`: reading and changing a mapping.
* `Value.typeName`, `Value.shown`: the name of a value's type, and its text.

## Main results

* `Value.ofLetters_ofChars`: a text of characters is kept as it is.
* `Value.letters?_ofLetters`: a text keeps its letters.
-/

namespace ProjectLint

/-- A value of a configuration file. -/
inductive Value
  | null
  | bool (b : Bool)
  | int (n : Int)
  | float (x : Binary64)
  | str (s : String)
  /-- A text that is no sequence of characters, since there is a half of a surrogate pair in it. -/
  | illFormed (text : List Text.Letter)
  | bytes (bs : List UInt8)
  | date (d : Calendar.Date)
  | moment (m : Calendar.Moment)
  | list (items : List Value)
  | pair (first second : Value)
  | set (items : List Value)
  | map (entries : List (Value × Value))
  deriving Repr

/-- The entries of a mapping, each a key and its value. -/
abbrev Entries := List (Value × Value)

namespace Value

/-- The value of a text. -/
def ofLetters (text : List Text.Letter) : Value :=
  match Text.Letter.characters? text with
  | some cs => .str (String.ofList cs)
  | none => .illFormed text

/-- The letters of a text. -/
def letters? : Value → Option (List Text.Letter)
  | str s => some (Text.Letter.ofText s)
  | illFormed text => some text
  | _ => none

/-- A text of characters is kept as it is. -/
@[simp] theorem ofLetters_ofChars (cs : List Char) :
    ofLetters (Text.Letter.ofChars cs) = .str (String.ofList cs) := by
  simp [ofLetters]

/-- Whether a value is a mapping. -/
def isMap : Value → Bool
  | map _ => true
  | _ => false

/-- A text keeps its letters. -/
@[simp] theorem letters?_ofLetters (text : List Text.Letter) :
    (ofLetters text).letters? = some text := by
  unfold ofLetters
  split
  · next cs h =>
    rw [Text.Letter.characters?_eq_some_iff] at h
    simp [letters?, Text.Letter.ofText, h]
  · rfl

@[simp] theorem isMap_ofLetters (text : List Text.Letter) : (ofLetters text).isMap = false := by
  unfold ofLetters
  split <;> rfl

/-- The entries of a mapping; none for any other value. -/
def entries : Value → Entries
  | map es => es
  | _ => []

/-- The number that a value counts as when keys are compared. -/
def whole? : Value → Option Int
  | bool b => some (if b then 1 else 0)
  | int n => some n
  | _ => none

/-- Values that are the same key. -/
def sameKey : Value → Value → Bool
  | null, null => true
  | str a, str b => a = b
  | illFormed a, illFormed b => a = b
  | bytes a, bytes b => a = b
  | date a, date b => a = b
  | moment a, moment b => a.same b
  | float x, float y => x.same y
  | float x, y => y.whole?.any x.equalsInt
  | x, float y => x.whole?.any y.equalsInt
  | x, y => match x.whole?, y.whole? with
    | some m, some n => m = n
    | _, _ => false

@[simp] theorem sameKey_str (a b : String) : (str a).sameKey (str b) = decide (a = b) := rfl

end Value

namespace Entries

/-- The value of a key. -/
def get? (es : Entries) (key : Value) : Option Value :=
  (es.find? fun e => e.1.sameKey key).map (·.2)

/-- The value of a name. -/
def field? (es : Entries) (name : String) : Option Value := es.get? (.str name)

/-- The entries with a value for a key, at the place of the key if it has one and at the end if it
has none. A key keeps its first spelling. -/
def set (es : Entries) (key value : Value) : Entries :=
  match es with
  | [] => [(key, value)]
  | (k, v) :: rest =>
    if k.sameKey key then (k, value) :: rest else (k, v) :: set rest key value

@[simp] theorem get?_nil (key : Value) : get? [] key = none := rfl

@[simp] theorem get?_cons (k v : Value) (es : Entries) (key : Value) :
    get? ((k, v) :: es) key = if k.sameKey key then some v else get? es key := by
  simp only [get?, List.find?_cons]
  split <;> simp_all

end Entries

namespace Value

/-! ### Names and texts -/

/-- The name of a value's type. -/
def typeName : Value → String
  | null => "NoneType"
  | bool _ => "bool"
  | int _ => "int"
  | float _ => "float"
  | str _ => "str"
  | illFormed _ => "str"
  | bytes _ => "bytes"
  | date _ => "date"
  | moment _ => "datetime"
  | list _ => "list"
  | pair _ _ => "tuple"
  | set _ => "set"
  | map _ => "dict"

/-- A byte between quotes of the given kind. -/
def byteText (quote : Char) (b : UInt8) : List Char :=
  if b < 0x80 then
    let c := Char.ofNat b.toNat
    if c = quote then ['\\', c] else Text.Quoted.escape quote c
  else '\\' :: 'x' :: Text.hex 2 b.toNat

/-- The text of bytes: the letter `b` and the bytes between quotes, the printable ones as
characters. -/
def bytesText (bs : List UInt8) : String :=
  let quote := Text.Quoted.mark (bs.map fun b => Char.ofNat b.toNat)
  String.ofList ('b' :: quote :: bs.flatMap (byteText quote) ++ [quote])

/-- The text of a value that can be a key. Other values are shown by the name of their type. -/
def shown : Value → String
  | null => "None"
  | bool b => if b then "True" else "False"
  | int n => toString n
  | float x => x.text
  | str s => s
  | illFormed text => Text.Letter.toText text
  | bytes bs => bytesText bs
  | date d => String.ofList d.text
  | moment m => String.ofList m.text
  | v => v.typeName

/-- Whether a value can be shown: a whole number must not have too many digits. -/
def isShowable : Value → Bool
  | int n => Text.Numeral.isWritable n
  | _ => true

end Value

end ProjectLint
