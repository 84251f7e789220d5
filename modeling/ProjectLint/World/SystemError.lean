import ProjectLint.Text.Quoted

/-!
# Refusals of the system

Looking up, opening and starting a file can be refused. A refusal has a cause, and names the path
that it is about.

## Main definitions

* `SystemError.Cause`: why the system refuses.
* `SystemError`: a refusal about a path.
* `FileFault`: a refusal, or a path that no system call accepts.
-/

namespace ProjectLint

/-- Why the system refuses. -/
inductive SystemError.Cause
  | notFound
  | argumentsTooLong
  | badFormat
  | accessDenied
  | notDirectory
  | isDirectory
  | nameTooLong
  deriving DecidableEq, Repr

namespace SystemError.Cause

/-- The number of a cause. -/
def code : SystemError.Cause → Nat
  | notFound => 2
  | argumentsTooLong => 7
  | badFormat => 8
  | accessDenied => 13
  | notDirectory => 20
  | isDirectory => 21
  | nameTooLong => 36

/-- The wording of a cause. -/
def description : SystemError.Cause → String
  | notFound => "No such file or directory"
  | argumentsTooLong => "Argument list too long"
  | badFormat => "Exec format error"
  | accessDenied => "Permission denied"
  | notDirectory => "Not a directory"
  | isDirectory => "Is a directory"
  | nameTooLong => "File name too long"

/-- Causes are told apart by their numbers. -/
theorem code_injective : ∀ {x y : SystemError.Cause}, x.code = y.code → x = y := by
  intro x y
  cases x <;> cases y <;> simp [code]

end SystemError.Cause

/-- A refusal about a path. -/
structure SystemError where
  cause : SystemError.Cause
  path : String
  deriving DecidableEq, Repr

/-- The wording of a refusal. -/
def SystemError.message (e : SystemError) : String :=
  s!"[Errno {e.cause.code}] " ++ e.cause.description ++ ": " ++ Text.quoted e.path

/-- Why a file cannot be used. -/
inductive FileFault
  /-- The system refuses. -/
  | refused (e : SystemError)
  /-- The path has a NUL character, with which no path can be handed to the system. -/
  | nulInPath
  deriving DecidableEq, Repr

/-- The wording of a fault. -/
def FileFault.message : FileFault → String
  | refused e => e.message
  | nulInPath => "embedded null byte"

end ProjectLint
