import Mathlib.Data.List.DropRight
import Mathlib.Data.List.TakeWhile
import ProjectLint.Text.Digit
import ProjectLint.Text.JsonString
import ProjectLint.Text.Letter
import ProjectLint.Text.Numeral

/-!
# Reading JSON

A reader of documents that are made of objects, lists, texts and whole numbers. It knows nothing of
how such documents are written here: blanks may stand between any two tokens, and a text may use
any escape.

## Main definitions

* `Json`: what a document holds.
* `Letter.joined?`: the characters of a text whose halves of surrogate pairs stand in pairs.
* `Json.units?`: the UTF-16 code units of a text up to its closing quote.
* `Json.value?`: a value at the front of a text, and the rest.
* `Json.read?`: what a document holds.

## Main results

* `Json.text?_escape`: a text that is written as a string is read back.
* `Json.value?_text`, `Json.value?_whole`, `Json.value?_list`, `Json.value?_object`: values of each
  kind.
-/

namespace ProjectLint.Text

/-- What a document holds. The fields of an object are kept in order. -/
inductive Json
  | text (s : String)
  | whole (n : Nat)
  | list (items : List Json)
  | object (fields : List (String × Json))

namespace Letter

/-- The character of a pair, from its two halves. -/
def ofPair (high low : Nat) : Char :=
  Char.ofNat (0x10000 + (high - 0xd800) * 0x400 + (low - 0xdc00))

/-- The characters of a text, if each half in it stands beside its other half. -/
def joined? : List Letter → Option (List Char)
  | [] => some []
  | char c :: ls => (joined? ls).map (c :: ·)
  | half high :: half low :: ls =>
    if high < 0xdc00 ∧ 0xdc00 ≤ low then (joined? ls).map (ofPair high low :: ·) else none
  | half _ :: _ => none

example : joined? [half 0xd83d, half 0xde00] = some ['😀'] := rfl

end Letter

namespace Json

/-! ### Texts -/

/-- The value of a hexadecimal digit. -/
def hexDigit? (c : Char) : Option Nat := (asciiDigit? c).filter (· < 16)

/-- The code unit that four hexadecimal digits denote. -/
def unit? (a b c d : Char) : Option Nat := do
  return (((← hexDigit? a) * 16 + (← hexDigit? b)) * 16 + (← hexDigit? c)) * 16 + (← hexDigit? d)

/-- The character that a letter after a backslash stands for. -/
def escaped? : Char → Option Char
  | '"' => some '"'
  | '\\' => some '\\'
  | '/' => some '/'
  | 'b' => some '\x08'
  | 'f' => some '\x0c'
  | 'n' => some '\n'
  | 'r' => some '\r'
  | 't' => some '\t'
  | _ => none

/-- The UTF-16 code units of a text up to its closing quote, and what follows the quote. -/
def units? : List Char → Option (List Nat × List Char)
  | [] => none
  | '"' :: cs => some ([], cs)
  | '\\' :: 'u' :: a :: b :: c :: d :: cs => do
    let u ← unit? a b c d
    let (us, rest) ← units? cs
    return (u :: us, rest)
  | '\\' :: c :: cs => do
    let e ← escaped? c
    let (us, rest) ← units? cs
    return (utf16 e ++ us, rest)
  | c :: cs => do
    let (us, rest) ← if ' ' ≤ c then units? cs else none
    return (utf16 c ++ us, rest)

/-- A text after its opening quote, and what follows its closing quote. Halves of surrogate pairs
stand side by side. -/
def text? (cs : List Char) : Option (String × List Char) := do
  let (us, rest) ← units? cs
  let cs ← Letter.joined? (us.map Letter.ofCode)
  return (String.ofList cs, rest)

/-! ### Values -/

/-- Whether a character may stand between two tokens. -/
def isBlank (c : Char) : Bool := c = ' ' || c = '\n' || c = '\r' || c = '\t'

/-- What follows the blanks at the front of a text. -/
def skip (cs : List Char) : List Char := cs.dropWhile isBlank

/-- A whole number at the front of a text, and the rest. -/
def whole? (cs : List Char) : Option (Json × List Char) :=
  let ds := cs.takeWhile Char.isDigit
  if ds = [] then none else some (.whole (Numeral.value ds), cs.dropWhile Char.isDigit)

mutual

/-- A value at the front of a text, and the rest. -/
def value? : (fuel : Nat) → List Char → Option (Json × List Char)
  | 0, _ => none
  | fuel + 1, cs =>
    match skip cs with
    | '"' :: cs => (text? cs).map fun (s, rest) => (.text s, rest)
    | '[' :: cs =>
      match skip cs with
      | ']' :: rest => some (.list [], rest)
      | cs => (items? fuel cs).map fun (vs, rest) => (.list vs, rest)
    | '{' :: cs =>
      match skip cs with
      | '}' :: rest => some (.object [], rest)
      | cs => (fields? fuel cs).map fun (fs, rest) => (.object fs, rest)
    | cs => whole? cs

/-- The items of a list up to its closing bracket, and what follows the bracket. -/
def items? : (fuel : Nat) → List Char → Option (List Json × List Char)
  | 0, _ => none
  | fuel + 1, cs => do
    let (v, cs) ← value? fuel cs
    match skip cs with
    | ']' :: rest => return ([v], rest)
    | ',' :: cs =>
      let (vs, rest) ← items? fuel cs
      return (v :: vs, rest)
    | _ => none

/-- The fields of an object up to its closing brace, and what follows the brace. -/
def fields? : (fuel : Nat) → List Char → Option (List (String × Json) × List Char)
  | 0, _ => none
  | fuel + 1, cs =>
    match skip cs with
    | '"' :: cs => do
      let (name, cs) ← text? cs
      match skip cs with
      | ':' :: cs =>
        let (v, cs) ← value? fuel cs
        match skip cs with
        | '}' :: rest => return ([(name, v)], rest)
        | ',' :: cs =>
          let (fs, rest) ← fields? fuel cs
          return ((name, v) :: fs, rest)
        | _ => none
      | _ => none
    | _ => none

end

/-- What a document holds. -/
def read? (s : String) : Option Json := do
  let (v, rest) ← value? (s.length + 1) s.toList
  if skip rest = [] then return v else none

/-! ### Texts that are read back -/

theorem hexDigit?_hexDigit : ∀ n < 16, hexDigit? (hexDigit n) = some n := by decide

/-- The four digits of a code unit denote it. -/
theorem unit?_hexDigit {u : Nat} (hu : u < 0x10000) :
    unit? (hexDigit (u / 16 / 16 / 16 % 16)) (hexDigit (u / 16 / 16 % 16)) (hexDigit (u / 16 % 16))
      (hexDigit (u % 16)) = some u := by
  have hdigit (n : Nat) : hexDigit? (hexDigit (n % 16)) = some (n % 16) :=
    hexDigit?_hexDigit _ (Nat.mod_lt _ (by decide))
  simp only [unit?, hdigit, Option.pure_def, Option.bind_eq_bind, Option.bind_some,
    Option.some.injEq]
  omega

theorem units?_hex {u : Nat} (hu : u < 0x10000) (rest : List Char) :
    units? ('\\' :: 'u' :: hex 4 u ++ rest) = (units? rest).map fun p => (u :: p.1, p.2) := by
  have hdigits : hex 4 u = [hexDigit (u / 16 / 16 / 16 % 16), hexDigit (u / 16 / 16 % 16),
      hexDigit (u / 16 % 16), hexDigit (u % 16)] := rfl
  rw [hdigits]
  simp only [List.cons_append, List.nil_append, units?, unit?_hexDigit hu]
  cases units? rest <;> rfl

theorem toNat_lt (c : Char) : c.toNat < 0x110000 := by
  rcases c.valid with h | h
  · exact Nat.lt_trans h (by decide)
  · exact h.2

theorem lt_of_mem_utf16 {c : Char} {u : Nat} (h : u ∈ utf16 c) : u < 0x10000 := by
  have hc := toNat_lt c
  rw [utf16] at h
  split at h
  · simpa using (by simpa using h : u = c.toNat) ▸ ‹c.toNat < 0x10000›
  · simp only [List.mem_cons, List.not_mem_nil, or_false] at h
    omega

theorem units?_flatMap_hex (rest : List Char) : ∀ us : List Nat, (∀ u ∈ us, u < 0x10000) →
    units? ((us.flatMap fun u => '\\' :: 'u' :: hex 4 u) ++ rest) =
      (units? rest).map fun p => (us ++ p.1, p.2)
  | [], _ => by cases h : units? rest <;> simp [h]
  | u :: us, h => by
    obtain ⟨hu, hus⟩ := List.forall_mem_cons.mp h
    rw [List.flatMap_cons, List.append_assoc, units?_hex hu, units?_flatMap_hex rest us hus,
      Option.map_map]
    rfl

/-- A character is written as its code units. -/
theorem units?_escape (c : Char) (rest : List Char) :
    units? (JsonString.escape c ++ rest) = (units? rest).map fun p => (utf16 c ++ p.1, p.2) := by
  have hletter {e l : Char} (hl : l ≠ 'u') (he : escaped? l = some e) :
      units? ('\\' :: l :: rest) = (units? rest).map fun p => (utf16 e ++ p.1, p.2) := by
    cases hrest : units? rest <;> simp [units?, hl, he, hrest]
  rw [JsonString.escape]
  split
  · next hc => rcases hc with rfl | rfl <;> exact hletter (by decide) rfl
  split
  · next hc => exact hc ▸ hletter (by decide) rfl
  split
  · next hc => exact hc ▸ hletter (by decide) rfl
  split
  · next hc => exact hc ▸ hletter (by decide) rfl
  split
  · next hc => exact hc ▸ hletter (by decide) rfl
  split
  · next hc => exact hc ▸ hletter (by decide) rfl
  split
  · next hquote _ _ _ _ _ hprintable =>
    obtain ⟨hquote, hbackslash⟩ := not_or.mp hquote
    cases hrest : units? rest <;> simp [units?, hbackslash, hprintable.1, hrest]
  · exact units?_flatMap_hex rest (utf16 c) fun u => lt_of_mem_utf16

theorem not_surrogate (c : Char) : ¬(0xd800 ≤ c.toNat ∧ c.toNat ≤ 0xdfff) := by
  rintro ⟨hlow, hhigh⟩
  rcases c.valid with h | h
  · exact absurd h (Nat.not_lt.mpr hlow)
  · exact absurd h.1 (Nat.not_lt.mpr hhigh)

/-- The code units of a character make it up again. -/
theorem joined?_utf16 (c : Char) (ls : List Letter) :
    Letter.joined? ((utf16 c).map Letter.ofCode ++ ls) = (Letter.joined? ls).map (c :: ·) := by
  have hc := toNat_lt c
  rw [utf16]
  split
  · simp [Letter.ofCode, not_surrogate c, Letter.joined?, Char.ofNat_toNat]
  · have hhigh : Letter.ofCode (0xd800 + (c.toNat - 0x10000) / 0x400) =
        .half (0xd800 + (c.toNat - 0x10000) / 0x400) := if_pos (by omega)
    have hlow : Letter.ofCode (0xdc00 + (c.toNat - 0x10000) % 0x400) =
        .half (0xdc00 + (c.toNat - 0x10000) % 0x400) := if_pos (by omega)
    have hpair : Letter.ofPair (0xd800 + (c.toNat - 0x10000) / 0x400)
        (0xdc00 + (c.toNat - 0x10000) % 0x400) = c := by
      rw [Letter.ofPair]
      convert Char.ofNat_toNat c using 2
      omega
    simp only [List.map_cons, List.map_nil, List.cons_append, List.nil_append, hhigh, hlow,
      Letter.joined?, hpair]
    exact if_pos (by omega)

/-- **A text that is written as a string is read back.** -/
theorem text?_escape (s : String) (rest : List Char) :
    text? (s.toList.flatMap JsonString.escape ++ '"' :: rest) = some (s, rest) := by
  have hunits (cs : List Char) :
      units? (cs.flatMap JsonString.escape ++ '"' :: rest) = some (cs.flatMap utf16, rest) := by
    induction cs with
    | nil => rfl
    | cons c cs ih =>
      rw [List.flatMap_cons, List.append_assoc, units?_escape, ih]
      rfl
  have hjoined (cs : List Char) :
      Letter.joined? ((cs.flatMap utf16).map Letter.ofCode) = some cs := by
    induction cs with
    | nil => rfl
    | cons c cs ih =>
      rw [List.flatMap_cons, List.map_append, joined?_utf16, ih]
      rfl
  simp [text?, hunits, hjoined]

/-! ### Values that are read back -/

/-- A text as a string, in front of another text. -/
def quote (s : String) (rest : List Char) : List Char :=
  '"' :: (s.toList.flatMap JsonString.escape ++ '"' :: rest)

/-- A new line with a number of spaces, in front of a text. -/
def indent (n : Nat) (rest : List Char) : List Char := '\n' :: (List.replicate n ' ' ++ rest)

theorem toList_jsonString_append (s : String) (rest : List Char) :
    (jsonString s).toList ++ rest = quote s rest := by
  simp [jsonString, quote]

section

variable {fuel n : Nat} {cs cs₁ cs₂ cs₃ cs₄ rest : List Char} {name s : String} {v : Json}
  {vs : List Json} {fs : List (String × Json)}

theorem skip_replicate (n : Nat) (rest : List Char) :
    skip (List.replicate n ' ' ++ rest) = skip rest :=
  List.dropWhile_append_of_pos fun c hc => by
    rw [List.eq_of_mem_replicate hc]
    rfl

@[simp] theorem skip_indent (n : Nat) (rest : List Char) : skip (indent n rest) = skip rest :=
  skip_replicate n rest

theorem skip_toDigits (n : Nat) (rest : List Char) :
    skip (Nat.toDigits 10 n ++ rest) = Nat.toDigits 10 n ++ rest := by
  obtain ⟨d, ds, hds⟩ := List.exists_cons_of_ne_nil (Nat.toDigits_ne_nil (b := 10) (n := n))
  have hmem : d ∈ Nat.toDigits 10 n := by simp [hds]
  have hd : d.isDigit = true := Nat.isDigit_of_mem_toDigits (by decide) (by decide) hmem
  have hblank : isBlank d = false := by
    by_contra h
    simp only [isBlank, Bool.or_eq_false_iff, decide_eq_false_iff_not, not_and_or, not_not] at h
    rcases h with ((rfl | rfl) | rfl) | rfl <;> cases hd
  rw [hds, List.cons_append, skip, List.dropWhile_cons_of_neg (by simp [hblank])]

theorem value?_text (h : skip cs = quote s rest) :
    value? (fuel + 1) cs = some (.text s, rest) := by
  rw [quote] at h
  simp only [value?, h, text?_escape, Option.map_some]

/-- A number ends where no digit follows. -/
theorem value?_whole (h : skip cs = Nat.toDigits 10 n ++ rest)
    (hrest : ∀ c ∈ rest.head?, c.isDigit = false) :
    value? (fuel + 1) cs = some (.whole n, rest) := by
  have hdigits : ∀ c ∈ Nat.toDigits 10 n, c.isDigit = true := fun c hc =>
    Nat.isDigit_of_mem_toDigits (by decide) (by decide) hc
  have htake : rest.takeWhile Char.isDigit = [] := by
    cases rest with
    | nil => rfl
    | cons c rest => exact List.takeWhile_cons_of_neg (by simp [hrest c rfl])
  have hdrop : rest.dropWhile Char.isDigit = rest := by
    cases rest with
    | nil => rfl
    | cons c rest => exact List.dropWhile_cons_of_neg (by simp [hrest c rfl])
  have hwhole : whole? (Nat.toDigits 10 n ++ rest) = some (.whole n, rest) := by
    simp [whole?, List.takeWhile_append_of_pos hdigits, List.dropWhile_append_of_pos hdigits, htake,
      hdrop, Nat.toDigits_ne_nil, Numeral.value_toDigits]
  obtain ⟨d, ds, hds⟩ := List.exists_cons_of_ne_nil (Nat.toDigits_ne_nil (b := 10) (n := n))
  have hd : d.isDigit = true := hdigits d (by simp [hds])
  rw [hds, List.cons_append] at h hwhole
  rw [value?, h]
  split
  · next heq => simp_all
  · next heq => simp_all
  · next heq => simp_all
  · exact hwhole

theorem skip_skip (cs : List Char) : skip (skip cs) = skip cs :=
  List.dropWhile_idempotent isBlank cs

/-- A value is read after the blanks in front of it. -/
theorem value?_skip (fuel : Nat) (cs : List Char) : value? fuel (skip cs) = value? fuel cs := by
  cases fuel with
  | zero => rw [value?, value?]
  | succ fuel => rw [value?, value?, skip_skip]

theorem items?_skip (fuel : Nat) (cs : List Char) : items? fuel (skip cs) = items? fuel cs := by
  cases fuel with
  | zero => rw [items?, items?]
  | succ fuel => rw [items?, items?, value?_skip]

theorem fields?_skip (fuel : Nat) (cs : List Char) : fields? fuel (skip cs) = fields? fuel cs := by
  cases fuel with
  | zero => rw [fields?, fields?]
  | succ fuel => rw [fields?, fields?, skip_skip]

theorem value?_object (h : skip cs = '{' :: cs₁) (hfs : fields? fuel cs₁ = some (fs, rest)) :
    value? (fuel + 1) cs = some (.object fs, rest) := by
  rw [← fields?_skip] at hfs
  simp only [value?, h]
  split
  · next hclosed =>
    rw [hclosed] at hfs
    cases fuel <;> cases hfs
  · rw [hfs]
    rfl

theorem value?_list (h : skip cs = '[' :: cs₁) (hvs : items? fuel cs₁ = some (vs, rest)) :
    value? (fuel + 1) cs = some (.list vs, rest) := by
  rw [← items?_skip] at hvs
  simp only [value?, h]
  split
  · next hclosed =>
    rw [hclosed] at hvs
    rcases fuel with _ | _ | fuel <;> cases hvs
  · rw [hvs]
    rfl

theorem value?_list_nil (h : skip cs = '[' :: cs₁) (hclosed : skip cs₁ = ']' :: rest) :
    value? (fuel + 1) cs = some (.list [], rest) := by
  simp only [value?, h, hclosed]

theorem items?_last (hv : value? fuel cs = some (v, cs₁)) (h : skip cs₁ = ']' :: rest) :
    items? (fuel + 1) cs = some ([v], rest) := by
  simp [items?, hv, h]

theorem items?_cons (hv : value? fuel cs = some (v, cs₁)) (h : skip cs₁ = ',' :: cs₂)
    (hvs : items? fuel cs₂ = some (vs, rest)) :
    items? (fuel + 1) cs = some (v :: vs, rest) := by
  simp [items?, hv, h, hvs]

theorem fields?_last (h : skip cs = quote name cs₁) (hcolon : skip cs₁ = ':' :: cs₂)
    (hv : value? fuel cs₂ = some (v, cs₃)) (hclosed : skip cs₃ = '}' :: rest) :
    fields? (fuel + 1) cs = some ([(name, v)], rest) := by
  rw [quote] at h
  simp [fields?, h, text?_escape, hcolon, hv, hclosed]

theorem fields?_cons (h : skip cs = quote name cs₁) (hcolon : skip cs₁ = ':' :: cs₂)
    (hv : value? fuel cs₂ = some (v, cs₃)) (hcomma : skip cs₃ = ',' :: cs₄)
    (hfs : fields? fuel cs₄ = some (fs, rest)) :
    fields? (fuel + 1) cs = some ((name, v) :: fs, rest) := by
  rw [quote] at h
  simp [fields?, h, text?_escape, hcolon, hv, hcomma, hfs]

end

end Json

end ProjectLint.Text
