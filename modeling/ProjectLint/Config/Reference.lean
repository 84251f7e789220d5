import ProjectLint.Log.Basic
import ProjectLint.Text.Letter
import ProjectLint.World.Environment

/-!
# References to variables

A text may refer to an environment variable, with or without a default for a variable that is not
set. A reference is a dollar sign and a name in braces; a default follows the name after a colon
and a hyphen. Neither the name nor the default has a closing brace, and the name has no colon.

## Main definitions

* `Reference`: a name, and a default if there is one.
* `Reference.value`: what stands for a reference.
* `Reference.read?`: the reference at the front of a text.
* `segments`: the references in a text, and the letters around them.
* `expandText`: a text with the values of the variables in place of its references.

## Main results

* `Reference.exists_of_read?`: what was read as a reference stands at the front of the text.
-/

namespace ProjectLint.Config

open Log Text

/-- A step of replacing references. It ends where a variable cannot be looked up. -/
abbrev Expansion := ExceptT Letter.EncodeFault Logged

/-- A reference to a variable. -/
structure Reference where
  name : List Letter
  /-- What stands for a variable that is not set. -/
  fallback : Option (List Letter)
  deriving DecidableEq, Repr

namespace Reference

/-- The letters of a reference. -/
def text (r : Reference) : List Letter :=
  .char '$' :: .char '\x7b' :: r.name ++
    ((match r.fallback with
      | none => []
      | some d => .char ':' :: .char '-' :: d) ++ [.char '\x7d'])

/-- A name is not empty and has neither a closing brace nor a colon; a default has no closing
brace. -/
structure Valid (r : Reference) : Prop where
  name_ne_nil : r.name ≠ []
  name : ∀ l ∈ r.name, l ≠ .char '\x7d' ∧ l ≠ .char ':'
  fallback : ∀ d, r.fallback = some d → .char '\x7d' ∉ d

/-- Whether a letter can stand in a name. -/
def isNameLetter (l : Letter) : Bool := l ≠ .char '\x7d' && l ≠ .char ':'

/-- Reads the end of a reference, after its name. -/
def readEnd? (name : List Letter) : List Letter → Option Reference
  | .char '\x7d' :: _ => some ⟨name, none⟩
  | .char ':' :: .char '-' :: ls =>
    if .char '\x7d' ∈ ls then some ⟨name, some (ls.takeWhile (· ≠ .char '\x7d'))⟩ else none
  | _ => none

/-- The reference at the front of a text. -/
def read? : List Letter → Option Reference
  | .char '$' :: .char '\x7b' :: ls =>
    if ls.takeWhile isNameLetter = [] then none
    else readEnd? (ls.takeWhile isNameLetter) (ls.dropWhile isNameLetter)
  | _ => none

/-- What follows the letters before the first closing brace begins with it. -/
theorem exists_of_mem_brace : ∀ {ls : List Letter}, .char '\x7d' ∈ ls →
    ∃ rest, ls = ls.takeWhile (· ≠ .char '\x7d') ++ .char '\x7d' :: rest
  | [], h => by simp at h
  | l :: ls, h => by
    by_cases hl : l = .char '\x7d'
    · exact ⟨ls, by simp [hl]⟩
    · obtain ⟨rest, hr⟩ := exists_of_mem_brace (by simpa [hl, eq_comm] using h)
      exact ⟨rest, by simpa [hl] using hr⟩

/-- The end of a reference, with its name in front, stands at the front of a text. -/
theorem exists_of_readEnd? {name ls : List Letter} {r : Reference}
    (h : readEnd? name ls = some r) :
    ∃ rest, .char '$' :: .char '\x7b' :: name ++ ls = r.text ++ rest := by
  unfold readEnd? at h
  split at h
  · next rest =>
    obtain rfl := Option.some.inj h
    exact ⟨rest, by simp [text]⟩
  · next rest =>
    split at h
    · next hb =>
      obtain ⟨tail, ht⟩ := exists_of_mem_brace hb
      obtain rfl := Option.some.inj h
      exact ⟨tail, by simpa [text] using ht⟩
    · simp at h
  · simp at h

/-- What was read as a reference stands at the front of the text. -/
theorem exists_of_read? {ls : List Letter} {r : Reference} (h : read? ls = some r) :
    ∃ rest, ls = r.text ++ rest := by
  unfold read? at h
  split at h
  · next ls =>
    split at h
    · simp at h
    · obtain ⟨rest, hr⟩ := exists_of_readEnd? h
      refine ⟨rest, ?_⟩
      rw [← hr]
      simp
  · simp at h

/-- The name of a reference as a sequence of characters, if it is one. -/
def characters? (r : Reference) : Option String := (Letter.characters? r.name).map String.ofList

/-- The value of the variable that a reference names, if it is set. No variable can be looked up by
a name that stands for no bytes. -/
def lookup (environment : Environment) (r : Reference) :
    Except Letter.EncodeFault (Option String) :=
  (Letter.encode r.name).map environment.getBytes?

/-- The warning about a reference that has neither a variable that is set nor a default. -/
def warning (r : Reference) : Record :=
  let name := Letter.toText r.name
  ⟨.warning, .loading, s!"Environment variable ${name} is not set and has no default", none⟩

/-- The value of a reference: that of the variable if it is set, else the default, and without
either nothing, with a warning. -/
def value (environment : Environment) (r : Reference) : Expansion (List Letter) := do
  match ← r.lookup environment with
  | some v => return Letter.ofText v
  | none => match r.fallback with
    | some d => return d
    | none => ExceptT.mk ⟨.ok [], [r.warning]⟩

end Reference

/-- What a text is made of. -/
inductive Segment
  /-- A letter that belongs to no reference. -/
  | plain (l : Letter)
  /-- A reference. -/
  | reference (r : Reference)
  deriving DecidableEq, Repr

/-- The segments of a text, where the first `skip` letters belong to a reference already found. -/
def segmentsFrom : Nat → List Letter → List Segment
  | _, [] => []
  | skip + 1, _ :: ls => segmentsFrom skip ls
  | 0, l :: ls =>
    match Reference.read? (l :: ls) with
    | some r => .reference r :: segmentsFrom (r.text.length - 1) ls
    | none => .plain l :: segmentsFrom 0 ls

/-- The references in a text, found from left to right, and the letters around them. -/
def segments (ls : List Letter) : List Segment := segmentsFrom 0 ls

/-- What a segment becomes. -/
def Segment.expand (environment : Environment) : Segment → Expansion (List Letter)
  | plain l => pure [l]
  | reference r => r.value environment

/-- A text with the values of the variables in place of its references. What is put in is not looked
at again. -/
def expandText (environment : Environment) (ls : List Letter) : Expansion (List Letter) := do
  let parts ← (segments ls).mapM (Segment.expand environment)
  return parts.flatten

end ProjectLint.Config
