import ProjectLint.Path
import ProjectLint.Settings

/-!
# Project roots

The root of a project is a directory, given as a text. One separator at the end of the text is
dropped, never more than one, and never the only character.

## Main definitions

* `normalizeRoot`: the root as the platform writes it, without one separator at its end.
* `moduleDirectory`: the absolute directory of a project's modules.
-/

namespace ProjectLint

/-- A character that separates the parts of a path on some platform. -/
def isSeparator (c : Char) : Bool := c = '/' || c = '\\'

/-- A text without one separator at its end, unless it is the only character. -/
def dropSeparator (cs : List Char) : List Char :=
  if 1 < cs.length ∧ cs.getLast?.any isSeparator then cs.dropLast else cs

/-- The separators of a text as a platform writes them. -/
def Platform.separators : Platform → List Char → List Char
  | .posix, cs => cs
  | .windows, cs => cs.map fun c => if c = '/' then '\\' else c

/-- The root as the platform writes it, without one separator at its end. -/
def normalizeRoot (platform : Platform) (root : String) : String :=
  String.ofList (platform.separators (dropSeparator root.toList))

/-- The absolute directory of a project's modules, as seen from the working directory. -/
def moduleDirectory (workingDirectory : String) (linter : Linter) (platform : Platform)
    (root : String) : String :=
  ((Path.ofText workingDirectory).absolute
    (Path.ofText (normalizeRoot platform root) ++ Path.ofText linter.modulesDir)).text

@[simp] theorem separators_posix (cs : List Char) : Platform.posix.separators cs = cs := rfl

/-- A root that is not empty stays so. -/
theorem dropSeparator_ne_nil {cs : List Char} (h : cs ≠ []) : dropSeparator cs ≠ [] := by
  unfold dropSeparator
  split
  · next hs =>
    intro hd
    have := congrArg List.length hd
    simp only [List.length_dropLast, List.length_nil] at this
    omega
  · exact h

end ProjectLint
