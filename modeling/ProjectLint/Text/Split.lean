/-!
# Cutting and joining texts

A text is cut at every occurrence of a separator, found from left to right without overlap, so
that the pieces and the separators between them make up the text again.

## Main definitions

* `pieces`: the pieces of a text between the occurrences of a separator.
* `join`: texts put together with a separator between each two.
* `lines`: the pieces between line feeds.

## Main results

* `pieces_singleton`: a separator of one character cuts as `List.splitOn` does.
-/

namespace ProjectLint.Text

/-- The pieces of a text, where the first `skip` characters belong to a separator already found. -/
def piecesFrom (sep : List Char) : Nat → List Char → List (List Char)
  | _, [] => [[]]
  | skip + 1, _ :: cs => piecesFrom sep skip cs
  | 0, c :: cs =>
    if sep.isPrefixOf (c :: cs) then [] :: piecesFrom sep (sep.length - 1) cs
    else (piecesFrom sep 0 cs).modifyHead (c :: ·)

/-- The pieces of a text between the occurrences of a separator. An empty separator cuts nothing. -/
def pieces (sep : List Char) (cs : List Char) : List (List Char) :=
  if sep = [] then [cs] else piecesFrom sep 0 cs

/-- A separator of one character cuts as `List.splitOn` does. -/
theorem pieces_singleton (c : Char) (cs : List Char) : pieces [c] cs = cs.splitOn c := by
  simp only [pieces, List.cons_ne_nil, if_false]
  induction cs with
  | nil => rfl
  | cons x xs ih =>
    rw [List.splitOn, List.splitOnP_cons_eq_if_modifyHead, ← List.splitOn]
    by_cases h : x = c
    · subst h
      simp [piecesFrom, ih]
    · have h' : ¬ c = x := fun e => h e.symm
      simp [piecesFrom, h, h', ih]

/-- Texts put together with a separator between each two. -/
def join (sep : List Char) (parts : List (List Char)) : List Char := sep.intercalate parts

@[simp] theorem join_nil (sep : List Char) : join sep [] = [] := by simp [join, List.intercalate]

/-- The pieces of a text between its line feeds. -/
def lines (cs : List Char) : List (List Char) := cs.splitOn '\n'

end ProjectLint.Text
