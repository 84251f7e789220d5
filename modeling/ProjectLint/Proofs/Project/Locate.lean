import ProjectLint.Proofs.Project.Bind

/-!
# When a linter cannot be looked for

The search for a project's linter stops at the first path that leads to a regular file, and at the
first path with a NUL character, about which the system cannot be asked at all. In the latter case
the search is stranded, and the binding ends in a fault of its own.

## Main definitions

* `World.isRegular`: a path leads to a regular file.
* `Strands`: the search for a linter comes to a path with a NUL character.

## Main results

* `firstRegular_value`: where a search stops.
* `Binder.bind_eq_file_iff`: a binding ends in this fault exactly when the search is stranded.
-/

namespace ProjectLint

namespace World

/-- Whether a path leads to a regular file. -/
def isRegular (w : World) (path : String) : Bool :=
  match w.status path with
  | .ok node => node.isRegular
  | .error _ => false

variable {w : World} {path : String}

theorem status_of_nul (h : '\x00' ∈ path.toList) : w.status path = .error .nulInPath :=
  if_pos h

theorem status_ne_nulInPath (h : '\x00' ∉ path.toList) : w.status path ≠ .error .nulInPath := by
  rw [status, if_neg h]
  split
  · simp
  · split <;> simp

/-- The empty text leads to no directory. -/
theorem ne_empty_of_isDirectory (h : w.isDirectory path = true) : path ≠ "" := by
  rintro rfl
  simp [isDirectory, status, place] at h

end World

/-! ### The search for a linter -/

/-- A search stops at a path with a NUL character, and at one that leads to a regular file. -/
def stopsAt (w : World) (path : String) : Bool := '\x00' ∈ path.toList || w.isRegular path

/-- The search for the linter of a project comes to a path with a NUL character before it comes to a
regular file. -/
def Strands (w : World) (root : String) (linter : Linter) (platform : Platform) : Prop :=
  ∃ path ∈ (candidates root linter platform).find? (stopsAt w), '\x00' ∈ path.toList

instance (w : World) (root : String) (linter : Linter) (platform : Platform) :
    Decidable (Strands w root linter platform) :=
  inferInstanceAs (Decidable (∃ path ∈ (candidates root linter platform).find? (stopsAt w), _))

variable {w : World} {linter : Linter} {platform : Platform}

/-- Where a search stops, and what it comes to there. -/
theorem firstRegular_value (w : World) (paths : List String) :
    (firstRegular w paths).value =
      match paths.find? (stopsAt w) with
      | none => .ok none
      | some path => if '\x00' ∈ path.toList then .error .nulInPath else .ok (some path) := by
  induction paths with
  | nil => rfl
  | cons path paths ih =>
    by_cases hnul : '\x00' ∈ path.toList
    · simp [firstRegular, World.status_of_nul hnul, stopsAt, hnul]
    · have hstatus := w.status_ne_nulInPath hnul
      cases hs : w.status path with
      | ok node =>
        by_cases hn : node.isRegular
        · simp [firstRegular, hs, hn, stopsAt, hnul, World.isRegular]
        · simp [firstRegular, hs, hn, stopsAt, hnul, World.isRegular, ih]
      | error fault =>
        cases fault with
        | nulInPath => exact absurd hs hstatus
        | refused e => simp [firstRegular, hs, stopsAt, hnul, World.isRegular, ih]

/-- The search for the linter of a project is a fault exactly when it is stranded. -/
theorem locateLinter_eq_error_iff {root : String} (hroot : root ≠ "") {e : FileFault} :
    (locateLinter w (some root) linter platform).value = .error e ↔
      e = .nulInPath ∧ Strands w root linter platform := by
  have hempty : root.isEmpty = false := by simpa using hroot
  simp only [locateLinter, hempty, Bool.false_eq_true, if_false, Logged.value_bind,
    firstRegular_value, Strands]
  cases (candidates root linter platform).find? (stopsAt w) with
  | none => simp
  | some path =>
    by_cases hnul : '\x00' ∈ path.toList
    · simp [hnul, eq_comm]
    · simp [hnul]

/-- **A binding ends in a fault of its own exactly when the search for the linter is stranded.** -/
theorem Binder.bind_eq_file_iff (b : Binder) (w : World) (new previous : Option String) :
    (∃ e, (b.bind w new previous).value.1 = .error (.file e)) ↔
      ∃ root ∈ b.target new, w.isDirectory root = true ∧ Strands w root b.linter b.platform := by
  constructor
  · rintro ⟨e, he⟩
    rcases bind_cases b w new previous with ⟨r, -, -, hv⟩ | ⟨e', hd, hl, -⟩ | ⟨c, b', hv, -⟩
    · simp [hv] at he
    · cases hroot : b.target new with
      | none => simp [hroot, locateLinter] at hl
      | some root =>
        have hdir := hd root hroot
        rw [hroot, locateLinter_eq_error_iff (World.ne_empty_of_isDirectory hdir)] at hl
        exact ⟨root, rfl, hdir, hl.2⟩
    · simp [hv] at he
  · rintro ⟨root, hroot, hdir, hstrands⟩
    have hd : ∀ r ∈ b.target new, w.isDirectory r = true := by
      intro r hr
      rwa [← Option.some_inj.mp (hroot.symm.trans hr)]
    have hl : (locateLinter w (b.target new) b.linter b.platform).value = .error .nulInPath := by
      rw [hroot, locateLinter_eq_error_iff (World.ne_empty_of_isDirectory hdir)]
      exact ⟨rfl, hstrands⟩
    exact ⟨.nulInPath, by rw [bind_of_fault hd hl]⟩

end ProjectLint
