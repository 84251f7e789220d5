import Mathlib.Data.List.DropRight
import Mathlib.Logic.Function.Iterate
import ProjectLint.Project.Root

/-!
# Facts about roots and module directories

Dropping a separator and writing the others in the manner of a platform never empties a text, and
the text of a path is not empty even where the path has no part. A slash at the end of a root says
nothing, unless there is nothing else or a backslash in front of it, so the module directory is the
same without it.

## Main definitions

* `stem`, `slashCount`: a text without the slashes at its end, and how many there are.
* `EndsPlainly`: a root whose last character besides slashes is not a backslash.
* `PlainRoot`: a root without a backslash in which something stands besides slashes.

## Main results

* `normalizeRoot_eq_empty_iff`: only the empty root becomes empty.
* `moduleDirectory_ne_empty`: a module directory always has a text.
* `moduleDirectory_iterate_normalizeRoot`: how often a root has lost a separator makes no difference
  to its module directory.
-/

namespace ProjectLint

/-! ### Normalized roots -/

theorem Platform.separators_eq_nil_iff (platform : Platform) {cs : List Char} :
    platform.separators cs = [] ↔ cs = [] := by
  cases platform <;> simp [Platform.separators]

theorem dropSeparator_eq_nil_iff {cs : List Char} : dropSeparator cs = [] ↔ cs = [] := by
  constructor
  · intro h
    exact Decidable.byContradiction fun hne => dropSeparator_ne_nil hne h
  · rintro rfl
    rfl

theorem dropSeparator_subset (cs : List Char) : dropSeparator cs ⊆ cs := by
  unfold dropSeparator
  split
  · exact List.dropLast_subset cs
  · exact List.Subset.refl cs

/-- Only the empty root becomes empty. -/
theorem normalizeRoot_eq_empty_iff {platform : Platform} {root : String} :
    normalizeRoot platform root = "" ↔ root = "" := by
  rw [normalizeRoot, String.ofList_eq_empty_iff, platform.separators_eq_nil_iff,
    dropSeparator_eq_nil_iff, String.toList_eq_nil_iff]

/-! ### Texts of paths -/

namespace Path

theorem ne_empty_of_mem_partsOf {cs : List Char} {part : String} (h : part ∈ partsOf cs) :
    part ≠ "" := by
  simp only [partsOf, List.mem_map, List.mem_filter, isNaming, Bool.and_eq_true,
    decide_eq_true_eq] at h
  obtain ⟨part, ⟨-, hne, -⟩, rfl⟩ := h
  simpa using hne

/-- Going up leaves parts as they are, and adds nothing but `..`. -/
theorem mem_collapseParts {anchored : Bool} {taken parts : List String} {part : String}
    (h : part ∈ collapseParts anchored taken parts) :
    part ∈ taken ∨ part ∈ parts ∨ part = ".." := by
  fun_induction collapseParts anchored taken parts with
  | case1 taken => exact Or.inl (List.mem_reverse.mp h)
  | case2 taken p parts hp ih => grind
  | case3 parts ih => grind
  | case4 parts ih => grind
  | case5 parts rest ih => grind
  | case6 parts last rest hlast ih => grind

theorem mem_parts_append {directory path : Path} {part : String}
    (h : part ∈ (directory ++ path).parts) : part ∈ directory.parts ∨ part ∈ path.parts := by
  by_cases hp : path.anchor = .relative
  · rw [append_of_relative directory hp] at h
    exact List.mem_append.mp h
  · rw [append_anchored directory hp] at h
    exact Or.inr h

theorem intercalate_ne_empty {part : String} {parts : List String} (h : part ≠ "") :
    "/".intercalate (part :: parts) ≠ "" := by
  cases parts with
  | nil => rwa [String.intercalate_singleton]
  | cons next parts =>
    rw [String.intercalate_cons_cons]
    simp

theorem text_ne_empty {p : Path} (h : ∀ part ∈ p.parts, part ≠ "") : p.text ≠ "" := by
  obtain ⟨anchor, parts⟩ := p
  unfold text
  split
  · simp
  · next hp =>
    intro he
    obtain ⟨hanchor, hparts⟩ := String.append_eq_empty_iff.mp he
    cases parts with
    | nil =>
      have hrelative : anchor = .relative := by
        cases anchor <;> simp_all [Anchor.text]
      exact hp ⟨hrelative, rfl⟩
    | cons part parts => exact intercalate_ne_empty (h part (by simp)) hparts

/-- A path as seen from a directory has a text. -/
theorem text_absolute_ne_empty {directory path : Path}
    (hd : ∀ part ∈ directory.parts, part ≠ "") (hp : ∀ part ∈ path.parts, part ≠ "") :
    (absolute directory path).text ≠ "" := by
  refine text_ne_empty fun part hpart => ?_
  rcases mem_collapseParts hpart with htaken | hparts | rfl
  · simp at htaken
  · exact (mem_parts_append hparts).elim (hd part) (hp part)
  · decide

end Path

/-- The module directory of a project always has a text. -/
theorem moduleDirectory_ne_empty (workingDirectory : String) (linter : Linter)
    (platform : Platform) (root : String) :
    moduleDirectory workingDirectory linter platform root ≠ "" := by
  refine Path.text_absolute_ne_empty (fun part h => Path.ne_empty_of_mem_partsOf h) ?_
  intro part h
  rcases Path.mem_parts_append h with h | h
  · exact Path.ne_empty_of_mem_partsOf h
  · exact Path.ne_empty_of_mem_partsOf h

/-! ### Slashes at the end -/

/-- A text without the slashes at its end. -/
def stem (cs : List Char) : List Char := cs.rdropWhile (· = '/')

/-- How many slashes a text ends with. -/
def slashCount (cs : List Char) : ℕ := (cs.rtakeWhile (· = '/')).length

@[simp] theorem stem_concat_slash (cs : List Char) : stem (cs ++ ['/']) = stem cs :=
  List.rdropWhile_concat_pos _ _ _ (by simp)

theorem stem_concat_of_ne (cs : List Char) {c : Char} (hc : c ≠ '/') :
    stem (cs ++ [c]) = cs ++ [c] :=
  List.rdropWhile_concat_neg _ _ _ (by simpa using hc)

theorem stem_ne_nil_iff {cs : List Char} : stem cs ≠ [] ↔ ∃ c ∈ cs, c ≠ '/' := by
  simp [stem]

@[simp] theorem stem_stem (cs : List Char) : stem (stem cs) = stem cs :=
  List.rdropWhile_idempotent _ _

@[simp] theorem stem_append_replicate (cs : List Char) (k : ℕ) :
    stem (cs ++ List.replicate k '/') = stem cs := by
  induction k with
  | zero => simp
  | succ k ih => rw [List.replicate_succ', ← List.append_assoc, stem_concat_slash, ih]

@[simp] theorem slashCount_concat_slash (cs : List Char) :
    slashCount (cs ++ ['/']) = slashCount cs + 1 := by
  rw [slashCount, List.rtakeWhile_concat_pos _ _ _ (by simp), List.length_append]
  rfl

@[simp] theorem slashCount_append_replicate (cs : List Char) (k : ℕ) :
    slashCount (cs ++ List.replicate k '/') = slashCount cs + k := by
  induction k with
  | zero => simp
  | succ k ih =>
    rw [List.replicate_succ', ← List.append_assoc, slashCount_concat_slash, ih, Nat.add_assoc]

theorem slashCount_concat_of_ne (cs : List Char) {c : Char} (hc : c ≠ '/') :
    slashCount (cs ++ [c]) = 0 := by
  rw [slashCount, List.rtakeWhile_concat_neg _ _ _ (by simpa using hc), List.length_nil]

@[simp] theorem slashCount_stem (cs : List Char) : slashCount (stem cs) = 0 := by
  rw [slashCount, List.length_eq_zero_iff, List.rtakeWhile_eq_nil_iff]
  exact fun hne => List.rdropWhile_last_not _ _ hne

/-- A text is what it is without the slashes at its end, and then these. -/
theorem stem_append_slashes (cs : List Char) :
    stem cs ++ List.replicate (slashCount cs) '/' = cs := by
  have hslashes : cs.rtakeWhile (· = '/') = List.replicate (slashCount cs) '/' :=
    List.eq_replicate_iff.mpr ⟨rfl, fun c hc => by simpa using List.mem_rtakeWhile_imp hc⟩
  rw [← hslashes]
  exact List.rdropWhile_append_rtakeWhile

namespace Path

theorem anchorOf_concat {cs : List Char} (h : ∃ c ∈ cs, c ≠ '/') :
    anchorOf (cs ++ ['/']) = anchorOf cs := by
  rcases cs with _ | ⟨a, _ | ⟨b, _ | ⟨c, cs⟩⟩⟩
  · simp at h
  · have ha : a ≠ '/' := by simpa using h
    simp [anchorOf, ha]
  · by_cases ha : a = '/'
    · have hb : b ≠ '/' := by simpa [ha] using h
      simp [anchorOf, ha, hb]
    · simp [anchorOf, ha]
  · by_cases ha : a = '/' <;> by_cases hb : b = '/' <;> by_cases hc : c = '/' <;>
      simp [anchorOf, ha, hb, hc]

theorem partsOf_concat (cs : List Char) : partsOf (cs ++ ['/']) = partsOf cs := by
  rw [partsOf, List.splitOn_append_cons_self, List.splitOn_nil, List.filter_append]
  simp [partsOf, isNaming]

/-- The slashes at the end of a path's text say nothing, unless there is nothing else. -/
theorem anchorOf_stem {cs : List Char} (h : stem cs ≠ []) : anchorOf (stem cs) = anchorOf cs := by
  induction cs using List.reverseRecOn with
  | nil => rfl
  | append_singleton cs c ih =>
    by_cases hc : c = '/'
    · subst hc
      rw [stem_concat_slash] at h ⊢
      rw [ih h, anchorOf_concat (stem_ne_nil_iff.mp h)]
    · rw [stem_concat_of_ne cs hc]

theorem partsOf_stem (cs : List Char) : partsOf (stem cs) = partsOf cs := by
  induction cs using List.reverseRecOn with
  | nil => rfl
  | append_singleton cs c ih =>
    by_cases hc : c = '/'
    · subst hc
      rw [stem_concat_slash, ih, partsOf_concat]
    · rw [stem_concat_of_ne cs hc]

end Path

/-- A root in which something stands besides slashes, and the last such character is not a
backslash. -/
def EndsPlainly (root : String) : Prop := ∃ c ∈ (stem root.toList).getLast?, c ≠ '\\'

instance (root : String) : Decidable (EndsPlainly root) :=
  decidable_of_iff ((stem root.toList).getLast?.any (· ≠ '\\')) (by
    simp [EndsPlainly, Option.any_eq_true])

namespace EndsPlainly

variable {root other : String}

theorem stem_ne_nil (h : EndsPlainly root) : stem root.toList ≠ [] := by
  obtain ⟨c, hc, -⟩ := h
  rintro hnil
  rw [hnil] at hc
  simp at hc

theorem of_stem_eq (h : EndsPlainly root) (hstem : stem other.toList = stem root.toList) :
    EndsPlainly other := by
  rwa [EndsPlainly, hstem]

/-- One slash at the end is dropped if there is one, and nothing else. -/
theorem toList_normalizeRoot (h : EndsPlainly root) :
    (normalizeRoot .posix root).toList =
      stem root.toList ++ List.replicate (slashCount root.toList - 1) '/' := by
  rw [normalizeRoot, separators_posix, String.toList_ofList]
  have hne := h.stem_ne_nil
  obtain ⟨c, hc, hback⟩ := h
  generalize root.toList = cs at hc hne
  rcases List.eq_nil_or_concat' cs with rfl | ⟨front, a, rfl⟩
  · simp [stem] at hne
  · by_cases ha : a = '/'
    · subst ha
      rw [stem_concat_slash] at hne ⊢
      have hlength : 1 < (front ++ ['/']).length := by
        obtain ⟨d, hd, -⟩ := stem_ne_nil_iff.mp hne
        have := List.length_pos_of_mem hd
        simpa using this
      rw [dropSeparator, if_pos ⟨hlength, by simp [isSeparator]⟩, List.dropLast_concat,
        slashCount_concat_slash, Nat.add_sub_cancel, stem_append_slashes]
    · rw [stem_concat_of_ne front ha] at hc ⊢
      obtain rfl : a = c := by simpa using hc
      have hkept : ¬(1 < (front ++ [a]).length ∧ (front ++ [a]).getLast?.any isSeparator) := by
        simp [isSeparator, ha, hback]
      rw [dropSeparator, if_neg hkept, slashCount_concat_of_ne front ha]
      simp

theorem normalizeRoot (h : EndsPlainly root) : EndsPlainly (normalizeRoot .posix root) :=
  h.of_stem_eq (by simp [h.toList_normalizeRoot])

/-- The path of a root is the same with one slash less at its end. -/
theorem ofText_normalizeRoot (h : EndsPlainly root) :
    Path.ofText (ProjectLint.normalizeRoot .posix root) = Path.ofText root := by
  have hstem : stem (ProjectLint.normalizeRoot .posix root).toList = stem root.toList := by
    simp [h.toList_normalizeRoot]
  rw [Path.ofText, Path.ofText, ← Path.anchorOf_stem h.normalizeRoot.stem_ne_nil,
    ← Path.anchorOf_stem h.stem_ne_nil, ← Path.partsOf_stem, ← Path.partsOf_stem root.toList, hstem]

theorem moduleDirectory_normalizeRoot (h : EndsPlainly root) (workingDirectory : String)
    (linter : Linter) :
    moduleDirectory workingDirectory linter .posix (ProjectLint.normalizeRoot .posix root) =
      moduleDirectory workingDirectory linter .posix root := by
  rw [moduleDirectory, h.normalizeRoot.ofText_normalizeRoot, moduleDirectory]

theorem iterate_normalizeRoot (h : EndsPlainly root) (n : ℕ) :
    EndsPlainly ((ProjectLint.normalizeRoot .posix)^[n] root) :=
  Function.Iterate.rec EndsPlainly h (fun _ hplain => hplain.normalizeRoot) n

/-- Each time one more of the slashes at the end is dropped, until none is left. -/
theorem toList_iterate_normalizeRoot (h : EndsPlainly root) (n : ℕ) :
    ((ProjectLint.normalizeRoot .posix)^[n] root).toList =
      stem root.toList ++ List.replicate (slashCount root.toList - n) '/' := by
  induction n with
  | zero => exact (stem_append_slashes root.toList).symm
  | succ n ih =>
    have hstem : stem ((ProjectLint.normalizeRoot .posix)^[n] root).toList = stem root.toList := by
      rw [ih, stem_append_replicate, stem_stem]
    have hcount : slashCount ((ProjectLint.normalizeRoot .posix)^[n] root).toList =
        slashCount root.toList - n := by
      rw [ih, slashCount_append_replicate, slashCount_stem, Nat.zero_add]
    rw [Function.iterate_succ_apply', (h.iterate_normalizeRoot n).toList_normalizeRoot, hstem,
      hcount, Nat.sub_sub]

end EndsPlainly

/-- **How often a root has lost a separator makes no difference.** Let the last character of a root
besides slashes be no backslash. Each normalization takes away one of the slashes at its end, as
long as there is one, and the module directory of what is left is that of the root. -/
theorem moduleDirectory_iterate_normalizeRoot {root : String} (h : EndsPlainly root)
    (workingDirectory : String) (linter : Linter) (n : ℕ) :
    ((normalizeRoot .posix)^[n] root).toList =
        stem root.toList ++ List.replicate (slashCount root.toList - n) '/' ∧
      moduleDirectory workingDirectory linter .posix ((normalizeRoot .posix)^[n] root) =
        moduleDirectory workingDirectory linter .posix root := by
  refine ⟨h.toList_iterate_normalizeRoot n, ?_⟩
  induction n with
  | zero => rfl
  | succ n ih =>
    rw [Function.iterate_succ_apply', (h.iterate_normalizeRoot n).moduleDirectory_normalizeRoot, ih]

/-- A root with three slashes at its end has one module directory, however often it is
normalized. -/
theorem moduleDirectory_of_three_slashes :
    let root := "//a\\/b\\c/..///"
    let linter : Linter := { modulesDir := "../m" }
    EndsPlainly root ∧ (normalizeRoot .posix)^[2] root = "//a\\/b\\c/../" ∧
      ∀ n, moduleDirectory "/w" linter .posix ((normalizeRoot .posix)^[n] root) = "//m" := by
  intro root linter
  have hplain : EndsPlainly root := by decide +kernel
  have htwo := (moduleDirectory_iterate_normalizeRoot hplain "/w" linter 2).1
  have hrest : stem root.toList ++ List.replicate (slashCount root.toList - 2) '/' =
      "//a\\/b\\c/../".toList := by
    decide +kernel
  have hdirectory : moduleDirectory "/w" linter .posix root = "//m" := by decide +kernel
  refine ⟨hplain, String.toList_inj.mp (htwo.trans hrest), fun n => ?_⟩
  exact (moduleDirectory_iterate_normalizeRoot hplain "/w" linter n).2.trans hdirectory

-- A backslash at the end is dropped like a slash, but it is a character of the name before it.
example : moduleDirectory "/w" {} .posix "/a\\\\" = "/a\\/node_modules" ∧
    moduleDirectory "/w" {} .posix (normalizeRoot .posix "/a\\\\") = "/a/node_modules" := by
  decide +kernel

/-! ### Plain roots -/

/-- A root without a backslash in which something stands besides slashes. -/
def PlainRoot (root : String) : Prop := '\\' ∉ root.toList ∧ ∃ c ∈ root.toList, c ≠ '/'

instance (root : String) : Decidable (PlainRoot root) :=
  decidable_of_iff ('\\' ∉ root.toList ∧ root.toList.any (· ≠ '/')) (by simp [PlainRoot])

namespace PlainRoot

variable {root : String}

theorem endsPlainly (h : PlainRoot root) : EndsPlainly root := by
  obtain ⟨hbackslash, hother⟩ := h
  have hne := stem_ne_nil_iff.mpr hother
  refine ⟨_, List.getLast?_eq_some_getLast hne, fun hlast => hbackslash ?_⟩
  have hprefix : stem root.toList <+: root.toList := List.rdropWhile_prefix _ _
  rw [← hlast]
  exact hprefix.subset (List.getLast_mem hne)

theorem ne_empty (h : PlainRoot root) : root ≠ "" := by
  rintro rfl
  obtain ⟨c, hc, -⟩ := h.2
  simp at hc

/-- A plain root without one separator at its end is plain. -/
theorem normalizeRoot (h : PlainRoot root) : PlainRoot (normalizeRoot .posix root) := by
  refine ⟨fun hbackslash => h.1 ?_, stem_ne_nil_iff.mp h.endsPlainly.normalizeRoot.stem_ne_nil⟩
  rw [ProjectLint.normalizeRoot, separators_posix, String.toList_ofList] at hbackslash
  exact dropSeparator_subset root.toList hbackslash

theorem moduleDirectory_normalizeRoot (h : PlainRoot root) (workingDirectory : String)
    (linter : Linter) :
    moduleDirectory workingDirectory linter .posix (ProjectLint.normalizeRoot .posix root) =
      moduleDirectory workingDirectory linter .posix root :=
  h.endsPlainly.moduleDirectory_normalizeRoot workingDirectory linter

end PlainRoot

end ProjectLint
