import ProjectLint.Project.SearchPath

/-!
# Search paths as values of variables

The value of a variable is cut at a separator of one character, and its pieces that are not empty
are the entries. Entries that are joined are cut again as they were exactly if each of them is such
a piece.

## Main definitions

* `SearchPath.IsEntry`: a text that can be an entry.

## Main results

* `isEntry_of_mem_split`: what a value is cut into are entries.
* `split_join_eq_iff`: which lists of texts are the entries of their joined value.
-/

namespace ProjectLint.SearchPath

open Text

variable {c : Char} {e : String} {entries : List String}

/-- A text that can be an entry of a value: it is not empty, and does not contain the separator. -/
def IsEntry (c : Char) (e : String) : Prop := e ≠ "" ∧ c ∉ e.toList

instance (c : Char) (e : String) : Decidable (IsEntry c e) :=
  inferInstanceAs (Decidable (_ ∧ _))

/-- The separator is in no piece. -/
theorem notMem_of_mem_splitOn {piece : List Char} :
    ∀ {cs : List Char}, piece ∈ cs.splitOn c → c ∉ piece
  | [], h => by
    obtain rfl : piece = [] := by simpa using h
    simp
  | a :: cs, h => by
    rw [List.splitOn_cons_eq_if_modifyHead] at h
    obtain ⟨first, rest, hcut⟩ := List.exists_cons_of_ne_nil (List.splitOn_ne_nil c cs)
    have hpieces : ∀ p ∈ first :: rest, c ∉ p := by
      intro p hp
      exact notMem_of_mem_splitOn (hcut ▸ hp)
    split at h
    · rcases List.mem_cons.mp h with rfl | h
      · simp
      · exact notMem_of_mem_splitOn h
    · next ha =>
      rw [hcut, List.modifyHead_cons] at h
      rcases List.mem_cons.mp h with rfl | h
      · have hne : c ≠ a := by
          rintro rfl
          simp at ha
        simpa [hne] using hpieces first List.mem_cons_self
      · exact hpieces piece (List.mem_cons_of_mem first h)

theorem separator_eq : separator = String.singleton ':' := rfl

theorem split_some (c : Char) (value : String) :
    split (String.singleton c) (some value) =
      ((value.toList.splitOn c).filter (· ≠ [])).map String.ofList := by
  rw [split, String.toList_singleton, pieces_singleton]

/-- What a value is cut into are entries. -/
theorem isEntry_of_mem_split {value : Option String}
    (h : e ∈ split (String.singleton c) value) : IsEntry c e := by
  cases value with
  | none => simp at h
  | some value =>
    rw [split_some] at h
    obtain ⟨piece, hpiece, rfl⟩ := List.mem_map.mp h
    obtain ⟨hmem, hne⟩ := List.mem_filter.mp hpiece
    refine ⟨by simpa using hne, ?_⟩
    rw [String.toList_ofList]
    exact notMem_of_mem_splitOn hmem

/-- Entries that are joined are cut as they were. -/
theorem split_join (h : ∀ e ∈ entries, IsEntry c e) :
    split (String.singleton c) (some (join (String.singleton c) entries)) = entries := by
  have hkept : (entries.map String.toList).filter (· ≠ []) = entries.map String.toList := by
    refine List.filter_eq_self.mpr fun piece hpiece => ?_
    obtain ⟨e, he, rfl⟩ := List.mem_map.mp hpiece
    simpa using (h e he).1
  rw [split_some, join, String.toList_intercalate, String.toList_singleton]
  cases entries with
  | nil => simp [List.intercalate]
  | cons e es =>
    rw [List.splitOn_intercalate c _ (by simp), hkept]
    · simp [Function.comp_def]
    · intro piece hpiece
      obtain ⟨e', he', rfl⟩ := List.mem_map.mp hpiece
      exact (h e' he').2

/-- **Which texts are the entries of their joined value.** They are just those that a value can be
cut into. -/
theorem split_join_eq_iff :
    split (String.singleton c) (some (join (String.singleton c) entries)) = entries ↔
      ∀ e ∈ entries, IsEntry c e := by
  refine ⟨fun h e he => ?_, split_join⟩
  rw [← h] at he
  exact isEntry_of_mem_split he

end ProjectLint.SearchPath
