import ProjectLint.Text.Split

/-!
# Search paths

A search path is a list of directories. In an environment variable its entries are separated by
colons, and an empty entry means nothing.

## Main definitions

* `SearchPath.split`, `SearchPath.join`: the entries of a value, and the value of entries.
* `SearchPath.rebind`: the search path after a change of projects.

## Main results

* `SearchPath.nodup_rebind`: no entry occurs twice after a change.
-/

namespace ProjectLint.SearchPath

open Text

/-- The separator of a variable's entries. -/
def separator : String := ":"

/-- The entries of a value: its pieces between the separators that are not empty. -/
def split (sep : String) (value : Option String) : List String :=
  match value with
  | none => []
  | some value =>
    ((pieces sep.toList value.toList).filter (· ≠ [])).map String.ofList

/-- The entries of a value, unless the separator is empty and so cuts nothing. An absent or empty
value has no entries, whatever the separator. -/
def split? (sep : String) (value : Option String) : Option (List String) :=
  if value.all (·.isEmpty) then some []
  else if sep.isEmpty then none
  else some (split sep value)

/-- The value with given entries. -/
def join (sep : String) (entries : List String) : String := sep.intercalate entries

/-- The search path after a change of projects: every occurrence of the previous project's directory
is removed, the new one's is put in front, and of equal entries the first one is kept. -/
def rebind (entries : List String) (previous new : Option String) : List String :=
  let kept := entries.filter fun e => some e ≠ previous
  let all := match new with
    | none => kept
    | some d => if d.isEmpty then kept else d :: kept
  all.eraseDups

@[simp] theorem split_none (sep : String) : split sep none = [] := rfl

/-- Keeping the first of equal entries leaves no entry twice. -/
theorem nodup_eraseDups : (l : List String) → l.eraseDups.Nodup
  | [] => by simp
  | a :: l => by
    rw [List.eraseDups_cons, List.nodup_cons]
    exact ⟨by simp, nodup_eraseDups _⟩
termination_by l => l.length
decreasing_by
  simp only [List.length_cons]
  exact Nat.lt_succ_of_le (List.length_filter_le _ _)

/-- No entry occurs twice after a change. -/
theorem nodup_rebind (entries : List String) (previous new : Option String) :
    (rebind entries previous new).Nodup :=
  nodup_eraseDups _

end ProjectLint.SearchPath
