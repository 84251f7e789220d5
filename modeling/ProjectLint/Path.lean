/-!
# Paths

A path is an anchor and a list of parts. Empty parts and single dots in its text say nothing and
are dropped. Exactly two slashes at the front are an anchor of their own; more than two are the
same as one.

## Main definitions

* `Path`: an anchor and parts.
* `Path.ofText`, `Path.text`: reading and writing.
* `Path.append`: one path inside another. An anchored path replaces what precedes it.
* `Path.collapse`: the same path without `..` where a part can be taken back.
* `Path.absolute`: a path as seen from a directory.

## Main results

* `Path.append_assoc`: it does not matter in which order paths are put together.
-/

namespace ProjectLint

/-- Where a path begins. -/
inductive Anchor
  /-- At a directory that is not named. -/
  | relative
  /-- At the root. -/
  | root
  /-- At the root, written with two slashes. -/
  | doubleRoot
  deriving DecidableEq, Repr

/-- A path: an anchor and the parts after it. -/
structure Path where
  anchor : Anchor
  parts : List String
  deriving DecidableEq, Repr

/-- The text of an anchor. -/
def Anchor.text : Anchor → String
  | relative => ""
  | root => "/"
  | doubleRoot => "//"

namespace Path

/-- The anchor that a text begins with. -/
def anchorOf : List Char → Anchor
  | '/' :: '/' :: '/' :: _ => .root
  | '/' :: '/' :: _ => .doubleRoot
  | '/' :: _ => .root
  | _ => .relative

/-- A part that names something: not empty and not a single dot. -/
def isNaming (part : List Char) : Bool := part ≠ [] && part ≠ ['.']

/-- The parts of a text between its slashes that name something. -/
def partsOf (cs : List Char) : List String :=
  ((cs.splitOn '/').filter isNaming).map String.ofList

/-- The path that a text denotes. -/
def ofText (s : String) : Path := ⟨anchorOf s.toList, partsOf s.toList⟩

/-- The text of a path. A relative path without parts is a single dot. -/
def text (p : Path) : String :=
  if p.anchor = .relative ∧ p.parts = [] then "."
  else p.anchor.text ++ "/".intercalate p.parts

/-- One path inside another. An anchored path replaces what precedes it. -/
def append (p q : Path) : Path :=
  if q.anchor = .relative then ⟨p.anchor, p.parts ++ q.parts⟩ else q

instance : Append Path := ⟨append⟩

@[simp] theorem append_relative (p : Path) (qs : List String) :
    p ++ (⟨.relative, qs⟩ : Path) = ⟨p.anchor, p.parts ++ qs⟩ := rfl

theorem append_of_relative (p : Path) {q : Path} (h : q.anchor = .relative) :
    p ++ q = ⟨p.anchor, p.parts ++ q.parts⟩ :=
  if_pos h

theorem append_anchored (p : Path) {q : Path} (h : q.anchor ≠ .relative) : p ++ q = q :=
  if_neg h

/-- It does not matter in which order paths are put together. -/
theorem append_assoc (p q r : Path) : p ++ q ++ r = p ++ (q ++ r) := by
  by_cases hr : r.anchor = .relative
  · obtain ⟨_, rs⟩ := r
    obtain rfl : _ = Anchor.relative := hr
    by_cases hq : q.anchor = .relative
    · obtain ⟨_, qs⟩ := q
      obtain rfl : _ = Anchor.relative := hq
      simp
    · rw [append_anchored p hq, append_relative, append_anchored]
      exact hq
  · simp only [append_anchored _ hr]

/-! ### Going up -/

/-- Takes parts one after another, `..` taking back the last part that is not itself `..`. At an
anchor there is nothing to take back, and `..` stays where it is. The parts taken so far are given
last first. -/
def collapseParts (anchored : Bool) : List String → List String → List String
  | taken, [] => taken.reverse
  | taken, part :: parts =>
    if part ≠ ".." then collapseParts anchored (part :: taken) parts
    else match taken with
      | [] => if anchored then collapseParts anchored [] parts
        else collapseParts anchored [".."] parts
      | last :: rest =>
        if last = ".." then collapseParts anchored (".." :: taken) parts
        else collapseParts anchored rest parts

/-- The same path without `..` where a part can be taken back. -/
def collapse (p : Path) : Path :=
  ⟨p.anchor, collapseParts (p.anchor ≠ .relative) [] p.parts⟩

@[simp] theorem collapse_anchor (p : Path) : p.collapse.anchor = p.anchor := rfl

/-- A path as seen from a directory, without `..`. -/
def absolute (directory path : Path) : Path := (directory ++ path).collapse

/-- A path as seen from a directory, with a single slash at the front. -/
def resolve (directory path : Path) : Path :=
  let p := absolute directory path
  if path.anchor = .doubleRoot then { p with anchor := .root } else p

/-! ### Texts -/

/-- The text of a name inside a directory that is given as a text. -/
def joinText (directory name : String) : String :=
  if directory.isEmpty then name
  else if directory.toList.getLast? = some '/' then directory ++ name
  else directory ++ "/" ++ name

example : (ofText "/a//./b/").text = "/a/b" := by decide +kernel
example : ((ofText "/a") ++ (ofText "/b/c")).text = "/b/c" := by decide +kernel
example : (absolute (ofText "/w") (ofText "../x/../../y")).text = "/y" := by decide +kernel

end Path

end ProjectLint
