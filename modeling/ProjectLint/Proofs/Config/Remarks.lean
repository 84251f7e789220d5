import Mathlib.Logic.Basic
import ProjectLint.Config.Check
import ProjectLint.Config.Interpret

/-!
# Remarks about a mapping

The check of a mapping makes remarks, and each remark is a warning or a key that cannot be shown. It
warns about a key in two ways: the key is not known, or its value is not what is expected.

## Main definitions

* `Config.Tells`: remarks warn about a key.

## Main results

* `tells_expect`, `tells_unknownKeys`: what each of the two ways warns about.
* `exists_settle_iff`: there are warnings where every key can be shown.
* `inSection_eq`: a section that is null counts as an empty one.
-/

namespace ProjectLint.Config

variable {source name key : String} {es : Entries} {rs ss : List Remark} {ws : List Warning}

/-- Remarks warn about a key. -/
def Tells (rs : List Remark) (key : String) : Prop := ∃ w, .ok w ∈ rs ∧ w.key = some key

theorem tells_append : Tells (rs ++ ss) key ↔ Tells rs key ∨ Tells ss key := by
  simp [Tells, or_and_right, exists_or]

theorem tells_flatMap {α : Type} {xs : List α} {f : α → List Remark} :
    Tells (xs.flatMap f) key ↔ ∃ x ∈ xs, Tells (f x) key := by
  simp only [Tells, List.mem_flatMap]
  grind

theorem tells_expect {isUsable : Value → Bool} {expected path : String} :
    Tells (expect source es name path isUsable expected) key ↔
      path = key ∧ ∃ v, given? es name = some v ∧ isUsable v = false := by
  rw [Tells, expect]
  cases given? es name with
  | none => simp
  | some v => cases h : isUsable v <;> simp [h]

theorem tells_unknownKeys {known : List String} {path kind : String} :
    Tells (unknownKeys source es known path kind) key ↔
      ∃ e ∈ es, isKnown known e.1 = false ∧ e.1.isShowable = true ∧ path ++ e.1.shown = key := by
  simp only [Tells, unknownKeys, List.mem_map, List.mem_filter, Bool.not_eq_true']
  constructor
  · rintro ⟨w, ⟨e, ⟨he, hunknown⟩, hw⟩, hkey⟩
    rw [unknownKey] at hw
    split at hw
    · next hshow =>
      cases hw
      exact ⟨e, he, hunknown, hshow, Option.some.inj hkey⟩
    · cases hw
  · rintro ⟨e, he, hunknown, hshow, rfl⟩
    exact ⟨_, ⟨e, ⟨he, hunknown⟩, by rw [unknownKey, if_pos hshow]⟩, rfl⟩

/-- Where all mistakes can be told there are warnings, and no other remarks. -/
theorem settle_eq_ok_iff : settle rs = .ok ws ↔ rs = ws.map .ok := by
  induction rs generalizing ws with
  | nil => cases ws <;> simp [settle]
  | cons r rs ih =>
    rcases r with e | w
    · cases ws <;> simp [settle]
    · rw [settle]
      cases ws with
      | nil => cases settle rs <;> simp [Except.map]
      | cons v vs =>
        rw [List.map_cons, List.cons.injEq, ← ih]
        cases settle rs <;> simp [Except.map]

theorem exists_settle_iff : (∃ ws, settle rs = .ok ws) ↔ ∀ e, .error e ∉ rs := by
  induction rs with
  | nil => simp [settle]
  | cons r rs ih =>
    rcases r with e | w
    · simp only [settle, reduceCtorEq, exists_false, false_iff, not_forall, not_not]
      exact ⟨e, by simp⟩
    · simp only [settle, List.mem_cons, reduceCtorEq, false_or, ← ih]
      cases settle rs <;> simp [Except.map]

theorem error_notMem_expect {isUsable : Value → Bool} {expected path : String} (e : CheckFault) :
    .error e ∉ expect source es name path isUsable expected := by
  rw [expect]
  split
  · simp
  · split <;> simp

theorem error_notMem_unknownKeys {known : List String} {path kind : String}
    (h : ∀ e ∈ es, e.1.isShowable = true) (f : CheckFault) :
    .error f ∉ unknownKeys source es known path kind := by
  simp only [unknownKeys, List.mem_map, List.mem_filter, not_exists, not_and, and_imp]
  intro e he _
  rw [unknownKey, if_pos (h e he)]
  simp

/-- A section that is null counts as an empty one. -/
theorem inSection_eq {inside : Entries → List Remark}
    (h : ∀ v, es.field? name = some v → v = .null ∨ v.isMap = true) (hempty : inside [] = []) :
    inSection source es name inside = inside (sectionEntries es name) := by
  rw [inSection, given?, sectionEntries]
  rcases hfield : es.field? name with _ | v
  · exact hempty.symm
  · rcases h v hfield with rfl | hmap
    · exact hempty.symm
    · cases v with
      | map entries => rfl
      | _ => cases hmap

end ProjectLint.Config
