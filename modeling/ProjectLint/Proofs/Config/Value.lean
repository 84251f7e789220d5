import Mathlib.Data.List.Basic
import ProjectLint.Config.Value

/-!
# Texts, mappings and their keys

A text is a value of its own, whether it is made of characters only or not. A mapping has each of
its keys once. The entries of a mapping are kept in a list, so this is a property of the list, and
one that is asked for at any depth of a value.

## Main definitions

* `Value.IsText`: a value is a text of given letters.
* `Value.Proper`: every mapping in a value has each of its keys once.

## Main results

* `Value.sameKey_str_iff`: only a text itself is the same key as the text.
* `Value.Proper.entries`: the entries of a proper value are a proper mapping.
-/

namespace ProjectLint

/-! ### Names as keys -/

namespace Value

@[simp] theorem sameKey_str_iff {k : Value} {s : String} :
    k.sameKey (.str s) = true ↔ k = .str s := by
  cases k <;> simp [sameKey, whole?]

end Value

namespace Entries

@[simp] theorem field?_nil (name : String) : field? [] name = none := rfl

theorem field?_cons_of_eq (name : String) (v : Value) (es : Entries) :
    field? ((.str name, v) :: es) name = some v := by
  simp [field?]

end Entries

/-! ### Texts -/

namespace Value

open Text

/-- A value is a text of given letters. -/
inductive IsText : Value → List Letter → Prop
  | plain (s : String) : IsText (.str s) (Letter.ofText s)
  | letters (text : List Letter) : IsText (.illFormed text) text

theorem isText_iff {v : Value} {ls : List Letter} : v.IsText ls ↔ v.letters? = some ls := by
  constructor
  · rintro (s | text) <;> rfl
  · intro h
    cases v with
    | str s =>
      cases h
      exact .plain s
    | illFormed text =>
      cases h
      exact .letters ls
    | _ => cases h

theorem isText_ofLetters (ls : List Letter) : (ofLetters ls).IsText ls :=
  isText_iff.mpr (letters?_ofLetters ls)

end Value

/-! ### Values with proper mappings -/

/-- Whether a value is no list, no pair and no mapping. -/
def Value.isSingle : Value → Bool
  | list _ => false
  | pair _ _ => false
  | map _ => false
  | _ => true

theorem Value.isSingle_ofLetters (text : List Text.Letter) : (ofLetters text).isSingle = true := by
  unfold ofLetters
  split <;> rfl

/-- Every mapping in a value has each of its keys once. -/
inductive Value.Proper : Value → Prop
  | single {v : Value} (h : v.isSingle = true) : Proper v
  | list {items : List Value} (h : ∀ v ∈ items, Proper v) : Proper (.list items)
  | pair {first second : Value} (hfirst : Proper first) (hsecond : Proper second) :
    Proper (.pair first second)
  | map {es : Entries} (keys : es.Pairwise fun e f => e.1.sameKey f.1 = false)
    (values : ∀ e ∈ es, Proper e.2) : Proper (.map es)

/-- The entries of a proper value are a proper mapping. -/
theorem Value.Proper.entries {v : Value} (h : v.Proper) : (Value.map v.entries).Proper := by
  cases v with
  | map es => exact h
  | _ => exact .map .nil (by simp [Value.entries])

end ProjectLint
