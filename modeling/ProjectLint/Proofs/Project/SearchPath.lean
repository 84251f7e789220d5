import ProjectLint.Project.SearchPath

/-!
# What a change of projects leaves of a search path

A change removes one directory, puts another in front and drops the later ones of equal entries.
Over several changes the removals add up, so the entries that were there at the beginning need only
be looked at once, with everything that was ever removed.

## Main definitions

* `SearchPath.ambient`: the entries that are left when others are gone.

## Main results

* `rebind_eq`: a change leaves the new directory and the ambient entries.
* `ambient_append_ambient`: what is left of a directory in front of ambient entries.
-/

namespace ProjectLint.SearchPath

/-! ### The first of equal entries -/

/-- It does not matter whether entries are removed before or after the later ones of equal entries
are dropped. -/
theorem eraseDups_filter (p : String → Bool) :
    (l : List String) → (l.filter p).eraseDups = l.eraseDups.filter p
  | [] => rfl
  | a :: l => by
    -- The recursion of `eraseDups` goes to the entries other than the first, not to the tail.
    have hothers := eraseDups_filter p (l.filter fun e => !e == a)
    rw [List.eraseDups_cons]
    by_cases ha : p a = true
    · have hcomm : (l.filter p).filter (fun e => !e == a) =
          (l.filter fun e => !e == a).filter p := by
        simp only [List.filter_filter, Bool.and_comm]
      rw [List.filter_cons_of_pos ha, List.filter_cons_of_pos ha, List.eraseDups_cons, ← hothers,
        hcomm]
    · have hsame : (l.filter fun e => !e == a).filter p = l.filter p := by
        rw [List.filter_filter]
        refine List.filter_congr fun e _ => ?_
        by_cases he : e = a
        · simp [he, ha]
        · simp [he]
      rw [List.filter_cons_of_neg ha, List.filter_cons_of_neg ha, ← hothers, hsame]
termination_by l => l.length
decreasing_by
  simp only [List.length_cons]
  exact Nat.lt_succ_of_le (List.length_filter_le _ _)

theorem eraseDups_eq_self {l : List String} (h : l.Nodup) : l.eraseDups = l := by
  induction l with
  | nil => rfl
  | cons a l ih =>
    obtain ⟨ha, hl⟩ := List.nodup_cons.mp h
    have hkept : (l.filter fun e => !e == a) = l := by
      refine List.filter_eq_self.mpr fun e he => ?_
      simpa using ne_of_mem_of_not_mem he ha
    rw [List.eraseDups_cons, hkept, ih hl]

/-! ### Ambient entries -/

/-- The entries that are left when others are gone, the first of equal ones kept. -/
def ambient (entries gone : List String) : List String :=
  (entries.filter (· ∉ gone)).eraseDups

theorem mem_ambient {entries gone : List String} {e : String} :
    e ∈ ambient entries gone ↔ e ∈ entries ∧ e ∉ gone := by
  simp [ambient, List.mem_eraseDups]

/-- Only that matters which of the entries are gone. -/
theorem ambient_congr_of_mem {entries gone gone' : List String}
    (h : ∀ e ∈ entries, e ∈ gone ↔ e ∈ gone') : ambient entries gone = ambient entries gone' := by
  have hfilter : entries.filter (· ∉ gone) = entries.filter (· ∉ gone') :=
    List.filter_congr fun e he => by simp [h e he]
  rw [ambient, hfilter, ambient]

/-- Only the set of what is gone matters. -/
theorem ambient_congr {gone gone' : List String} (entries : List String)
    (h : ∀ e, e ∈ gone ↔ e ∈ gone') : ambient entries gone = ambient entries gone' :=
  ambient_congr_of_mem fun e _ => h e

/-- What is gone may be listed twice, and in any order. -/
theorem ambient_append_comm (entries gone gone' : List String) :
    ambient entries (gone ++ gone') = ambient entries (gone' ++ gone) := by
  refine ambient_congr entries fun e => ?_
  rw [List.mem_append, List.mem_append, or_comm]

theorem ambient_append_gone {gone gone' : List String} (h : gone' ⊆ gone) (entries : List String) :
    ambient entries (gone ++ gone') = ambient entries gone := by
  refine ambient_congr entries fun e => ?_
  rw [List.mem_append]
  exact or_iff_left_of_imp fun he => h he

theorem ambient_ambient (entries gone gone' : List String) :
    ambient (ambient entries gone) gone' = ambient entries (gone' ++ gone) := by
  have hfilter : (ambient entries gone).filter (· ∉ gone') = ambient entries (gone' ++ gone) := by
    rw [ambient, ← eraseDups_filter, List.filter_filter, ambient]
    simp
  rw [ambient, hfilter]
  exact eraseDups_eq_self (nodup_eraseDups _)

theorem ambient_append_of_subset {front gone : List String} (h : front ⊆ gone)
    (entries : List String) : ambient (front ++ entries) gone = ambient entries gone := by
  have hfront : front.filter (· ∉ gone) = [] := by
    refine List.filter_eq_nil_iff.mpr fun e he => ?_
    simpa using h he
  rw [ambient, List.filter_append, hfront, List.nil_append, ambient]

/-- What is gone from the entries stays gone when a directory that is itself gone by now stood in
front of them. -/
theorem ambient_append_ambient {front gone : List String} (h : front ⊆ gone)
    (entries new : List String) :
    ambient (front ++ ambient entries gone) (new ++ front) = ambient entries (new ++ gone) := by
  have hfront : front ⊆ gone ++ new := List.subset_append_of_subset_left new h
  rw [ambient_append_of_subset (List.subset_append_right new front), ambient_ambient,
    ambient_append_comm entries (new ++ front), ← List.append_assoc, ambient_append_gone hfront,
    ambient_append_comm]

/-! ### Changes -/

/-- A change leaves the new directory and the ambient entries. -/
theorem rebind_eq (entries : List String) (previous : Option String) {new : Option String}
    (h : new ≠ some "") :
    rebind entries previous new =
      new.toList ++ ambient entries (new.toList ++ previous.toList) := by
  have hkept : (entries.filter fun e => some e ≠ previous) =
      entries.filter (· ∉ previous.toList) := by
    refine List.filter_congr fun e _ => ?_
    cases previous <;> simp
  cases new with
  | none =>
    unfold rebind ambient
    rw [hkept]
    rfl
  | some d =>
    have hd : ¬d.isEmpty = true := by
      simpa using h
    have hothers : (entries.filter (· ∉ previous.toList)).filter (fun e => !e == d) =
        entries.filter (· ∉ [d] ++ previous.toList) := by
      rw [List.filter_filter]
      refine List.filter_congr fun e _ => ?_
      by_cases he : e = d <;> simp [he]
    unfold rebind ambient
    dsimp only
    rw [hkept, if_neg hd, List.eraseDups_cons, hothers]
    rfl

end ProjectLint.SearchPath
