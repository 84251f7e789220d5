/-!
# Kinds of nodes

A node is of a kind that its tag names, or that the form of a plain scalar implies.

## Main definitions

* `Yaml.Kind`: the kinds that have values, and all others.
* `Yaml.Kind.ofTag`: the kind that a tag names.
* `Yaml.Kind.ofPlain`: the kind that the form of a plain scalar implies.
-/

namespace ProjectLint.Yaml

/-- The kind of a node. -/
inductive Kind
  | null
  | bool
  | int
  | float
  | binary
  | timestamp
  | str
  | seq
  | map
  | set
  | omap
  | pairs
  /-- A key whose value is merged into the mapping. -/
  | merge
  /-- A key for the value that a mapping has as a scalar. -/
  | value
  /-- A kind without values. -/
  | other
  deriving DecidableEq, Repr

namespace Kind

/-- The namespace of the tags with a meaning. -/
def tagNamespace : List Char :=
  ['t', 'a', 'g', ':', 'y', 'a', 'm', 'l', '.', 'o', 'r', 'g', ',', '2', '0', '0', '2', ':']

/-- The names of the kinds in that namespace. -/
def names : List (List Char × Kind) :=
  [(['n', 'u', 'l', 'l'], null), (['b', 'o', 'o', 'l'], bool), (['i', 'n', 't'], int),
    (['f', 'l', 'o', 'a', 't'], float), (['b', 'i', 'n', 'a', 'r', 'y'], binary),
    (['t', 'i', 'm', 'e', 's', 't', 'a', 'm', 'p'], timestamp), (['s', 't', 'r'], str),
    (['s', 'e', 'q'], seq), (['m', 'a', 'p'], map), (['s', 'e', 't'], set),
    (['o', 'm', 'a', 'p'], omap), (['p', 'a', 'i', 'r', 's'], pairs),
    (['m', 'e', 'r', 'g', 'e'], merge), (['v', 'a', 'l', 'u', 'e'], value)]

/-- The kind that a tag names. -/
def ofTag (tag : List Char) : Kind :=
  if tagNamespace.isPrefixOf tag then (names.lookup (tag.drop tagNamespace.length)).getD other
  else other

/-! ### Forms of plain scalars -/

/-- Whether a word is one of several, in lower case, in upper case or with a capital at the
front. -/
def isWord (words : List (List Char)) (cs : List Char) : Bool :=
  words.any fun w => cs = w || cs = w.map Char.toUpper ||
    cs = (w.head?.map Char.toUpper).toList ++ w.tail

/-- The words for a truth value. -/
def isTruthWord : List Char → Bool :=
  isWord [['y', 'e', 's'], ['n', 'o'], ['t', 'r', 'u', 'e'], ['f', 'a', 'l', 's', 'e'], ['o', 'n'],
    ['o', 'f', 'f']]

/-- The words for no value. -/
def isNullWord (cs : List Char) : Bool :=
  cs = [] || cs = ['~'] || isWord [['n', 'u', 'l', 'l']] cs

/-- A decimal digit or an underscore. -/
def isDecimal (c : Char) : Bool := c.isDigit || c = '_'

/-- A text without a sign at its front. -/
def unsigned : List Char → List Char
  | '+' :: cs => cs
  | '-' :: cs => cs
  | cs => cs

/-- The rest after groups of base sixty, each a colon and a number below sixty with one digit or
two, where at most `fuel` are read. There may be none. -/
def dropGroups : (fuel : Nat) → List Char → List Char
  | fuel + 1, ':' :: c :: d :: cs =>
    if '0' ≤ c ∧ c ≤ '5' ∧ d.isDigit then dropGroups fuel cs
    else if c.isDigit then dropGroups fuel (d :: cs)
    else ':' :: c :: d :: cs
  | _ + 1, [':', c] => if c.isDigit then [] else [':', c]
  | _, cs => cs

/-- What follows one or more groups of base sixty at the front of a text. -/
def afterGroups? (cs : List Char) : Option (List Char) :=
  let rest := dropGroups cs.length cs
  if rest.length < cs.length then some rest else none

/-- The forms of a whole number: binary, octal, decimal, hexadecimal and base sixty. -/
def isInt (cs : List Char) : Bool :=
  match unsigned cs with
  | [] => false
  | '0' :: ds =>
    ds = [] || ds.all (fun c => ('0' ≤ c && c ≤ '7') || c = '_') ||
      (match ds with
        | 'b' :: bs => bs ≠ [] && bs.all fun c => c = '0' || c = '1' || c = '_'
        | 'x' :: xs => xs ≠ [] && xs.all fun c =>
            isDecimal c || ('a' ≤ c && c ≤ 'f') || ('A' ≤ c && c ≤ 'F')
        | _ => false)
  | d :: ds =>
    d.isDigit && (let rest := ds.dropWhile isDecimal; rest = [] || afterGroups? rest = some [])

/-- The end of a fraction: nothing, or an exponent with a sign. -/
def isExponent : List Char → Bool
  | [] => true
  | e :: sign :: ds =>
    (e = 'e' || e = 'E') && (sign = '+' || sign = '-') && ds ≠ [] && ds.all Char.isDigit
  | _ => false

/-- The forms of a number with a point: decimal, base sixty, infinite and none. -/
def isFloat (cs : List Char) : Bool :=
  match unsigned cs with
  | '.' :: ds =>
    isWord [['i', 'n', 'f']] ds ||
      (unsigned cs = cs &&
        ([['n', 'a', 'n'], ['N', 'a', 'N'], ['N', 'A', 'N']].contains ds ||
          (ds.headD 'x').isDigit && isExponent (ds.dropWhile isDecimal)))
  | d :: ds =>
    d.isDigit &&
      (match ds.dropWhile isDecimal with
        | '.' :: rest => isExponent (rest.dropWhile isDecimal)
        | rest => match afterGroups? rest with
          | some ('.' :: rest) => rest.all isDecimal
          | _ => false)
  | [] => false

/-- What follows at least `least` and at most `most` digits at the front of a text. -/
def afterDigits? (least most : Nat) (cs : List Char) : Option (List Char) :=
  let n := ((cs.take most).takeWhile Char.isDigit).length
  if least ≤ n then some (cs.drop n) else none

/-- What follows a character at the front of a text. -/
def afterChar? (c : Char) : List Char → Option (List Char)
  | [] => none
  | d :: cs => if d = c then some cs else none

/-- The offset of a clock: nothing, a letter for universal time, or a sign with hours and perhaps
minutes, all after blanks. -/
def isOffset (cs : List Char) : Bool :=
  match cs.dropWhile (fun c => c = ' ' || c = '\t') with
  | [] => cs = []
  | ['Z'] => true
  | sign :: rest =>
    (sign = '+' || sign = '-') &&
      (match afterDigits? 1 2 rest with
        | none => false
        | some [] => true
        | some rest => (afterChar? ':' rest).any fun rest => afterDigits? 2 2 rest = some [])

/-- A time of day, from what stands between it and the date on. -/
def isTime (cs : List Char) : Bool :=
  let afterGap := match cs with
    | 'T' :: rest => some rest
    | 't' :: rest => some rest
    | cs =>
      let rest := cs.dropWhile fun c => c = ' ' || c = '\t'
      if rest.length < cs.length then some rest else none
  ((do
    let rest ← afterGap
    let rest ← afterDigits? 1 2 rest
    let rest ← afterChar? ':' rest
    let rest ← afterDigits? 2 2 rest
    let rest ← afterChar? ':' rest
    let rest ← afterDigits? 2 2 rest
    some (match rest with
      | '.' :: rest => isOffset (rest.dropWhile Char.isDigit)
      | rest => isOffset rest)).getD false : Bool)

/-- The forms of a date, with a time or without. Without a time the month and the day have two
digits each. -/
def isTimestamp (cs : List Char) : Bool :=
  ((do
    let rest ← afterDigits? 4 4 cs
    let rest ← afterChar? '-' rest
    let month := rest
    let rest ← afterDigits? 1 2 rest
    let rest ← afterChar? '-' rest
    let day := rest
    let rest ← afterDigits? 1 2 rest
    some (isTime rest ||
      (rest = [] && (afterDigits? 2 2 month).isSome && (afterDigits? 2 2 day).isSome))).getD
    false : Bool)

/-- A text without one line feed at its end. -/
def withoutBreak (cs : List Char) : List Char :=
  if cs.getLast? = some '\n' ∧ cs.length ≠ 1 then cs.dropLast else cs

/-- The kind that the form of a plain scalar implies. The forms of the kinds exclude each other,
and what has none of them is a text. -/
def ofPlain (text : List Char) : Kind :=
  let cs := withoutBreak text
  if isTruthWord cs then bool
  else if isFloat cs then float
  else if isInt cs then int
  else if cs = ['<', '<'] then merge
  else if isNullWord cs then null
  else if isTimestamp cs then timestamp
  else if cs = ['='] then value
  else if cs = ['!'] ∨ cs = ['&'] ∨ cs = ['*'] then other
  else str

example : ofPlain ['0', '1', '0'] = int := by decide
example : ofPlain ['1', ':', '3', '0'] = int := by decide
example : ofPlain ['1', 'e', '3'] = str := by decide
example : ofPlain ['1', '.', '5', 'e', '+', '3'] = float := by decide
example : ofPlain ['2', '0', '0', '1', '-', '1', '2', '-', '1', '4'] = timestamp := by decide
example : ofPlain ['n', 'o'] = bool := by decide

end Kind

end ProjectLint.Yaml
