import Mathlib.Data.List.Forall2
import ProjectLint.Log.Basic

/-!
# Steps that can fail

A step has a result or a failure. Steps are made one after another, and a list of them has results
only if each of them has one. Steps may also record what they do.

## Main definitions

* `orFault`: a result, unless there is a failure.

## Main results

* `bind_eq_ok_iff`, `map_eq_ok_iff`: when one step after another has a result.
* `bind_eq_error_iff`, `mapError_eq_error_iff`: when it has a failure.
* `mapM_eq_ok_iff`: when a list of steps has results.
* `exists_error_of_mapM`: when it fails.
* `value_run_bind`, `value_run_mapM`: what steps that record come to.
* `run_mapM_of_ok`: what they record if none of them fails.
-/

namespace ProjectLint

variable {ε α β γ : Type} {f : α → Except ε β} {xs : List α} {ys : List β}

theorem bind_eq_ok_iff {x : Except ε α} {y : β} :
    x >>= f = .ok y ↔ ∃ a, x = .ok a ∧ f a = .ok y := by
  cases x <;> simp [bind, Except.bind]

theorem bind_eq_error_iff {x : Except ε α} {g : α → Except ε γ} {e : ε} :
    x >>= g = .error e ↔ x = .error e ∨ ∃ a, x = .ok a ∧ g a = .error e := by
  cases x <;> simp [bind, Except.bind]

theorem map_eq_ok_iff {x : Except ε α} {g : α → β} {y : β} :
    g <$> x = .ok y ↔ ∃ a, x = .ok a ∧ g a = y := by
  cases x <;> simp [Functor.map, Except.map]

theorem map_eq_error_iff {x : Except ε α} {g : α → β} {e : ε} :
    x.map g = .error e ↔ x = .error e := by
  cases x <;> simp [Except.map]

theorem mapError_eq_ok_iff {x : Except ε α} {g : ε → γ} {a : α} :
    x.mapError g = .ok a ↔ x = .ok a := by
  cases x <;> simp [Except.mapError]

theorem mapError_eq_error_iff {x : Except ε α} {g : ε → γ} {e : γ} :
    x.mapError g = .error e ↔ ∃ d, x = .error d ∧ g d = e := by
  cases x <;> simp [Except.mapError]

theorem toOption_eq_some_iff {x : Except ε α} {a : α} : x.toOption = some a ↔ x = .ok a := by
  cases x <;> simp [Except.toOption]

/-- A list of steps has results exactly when each step has one. -/
theorem mapM_eq_ok_iff : xs.mapM f = .ok ys ↔ List.Forall₂ (fun x y => f x = .ok y) xs ys := by
  induction xs generalizing ys with
  | nil => simp [pure, Except.pure, eq_comm]
  | cons x xs ih =>
    simp only [List.mapM_cons, bind_eq_ok_iff, ih, List.forall₂_cons_left_iff]
    constructor
    · rintro ⟨y, hy, ys', hys', ⟨⟩⟩
      exact ⟨y, ys', hy, hys', rfl⟩
    · rintro ⟨y, ys', hy, hys', rfl⟩
      exact ⟨y, hy, ys', hys', rfl⟩

/-- What holds of the result of each step holds of all results. -/
theorem forall_of_mapM_eq_ok {R : β → Prop} (h : xs.mapM f = .ok ys)
    (hf : ∀ x ∈ xs, ∀ y, f x = .ok y → R y) : ∀ y ∈ ys, R y := by
  have hall := mapM_eq_ok_iff.mp h
  clear h
  induction hall with
  | nil => simp
  | cons hy _ ih =>
    obtain ⟨hx, hxs⟩ := List.forall_mem_cons.mp hf
    exact List.forall_mem_cons.mpr ⟨hx _ hy, ih hxs⟩

theorem map_eq_map_of_mapM_eq_ok {g : β → γ} {g' : α → γ} (h : xs.mapM f = .ok ys)
    (hf : ∀ x ∈ xs, ∀ y, f x = .ok y → g y = g' x) : ys.map g = xs.map g' := by
  have hall := mapM_eq_ok_iff.mp h
  clear h
  induction hall with
  | nil => rfl
  | cons hy _ ih =>
    obtain ⟨hx, hxs⟩ := List.forall_mem_cons.mp hf
    rw [List.map_cons, List.map_cons, hx _ hy, ih hxs]

/-- A list of steps fails exactly when one of the steps does. -/
theorem exists_error_of_mapM (f : α → Except ε β) (xs : List α) :
    (∃ e, xs.mapM f = .error e) ↔ ∃ x ∈ xs, ∃ e, f x = .error e := by
  induction xs with
  | nil => simp [pure, Except.pure]
  | cons x xs ih =>
    simp only [List.mapM_cons, List.mem_cons, exists_eq_or_imp, ← ih]
    cases hx : f x with
    | error e => simp [bind, Except.bind]
    | ok y =>
      cases hxs : xs.mapM f with
      | error e => simp [bind, Except.bind]
      | ok ys => simp [bind, Except.bind, pure, Except.pure]

theorem mapM_map_eq (f : α → Except ε β) (g : β → γ) (xs : List α) :
    (xs.mapM fun x => (f x).map g) = (xs.mapM f).map (List.map g) := by
  induction xs with
  | nil => rfl
  | cons x xs ih =>
    rw [List.mapM_cons, List.mapM_cons, ih]
    cases f x with
    | error e => rfl
    | ok y => cases xs.mapM f <;> rfl

/-! ### Results unless there is a failure -/

/-- A result, unless there is a failure. -/
def orFault (fault? : Option ε) (a : α) : Except ε α :=
  match fault? with
  | some e => .error e
  | none => .ok a

section

variable {fault? : Option ε} {a : α} {e : ε}

theorem map_orFault (g : α → β) : (orFault fault? a).map g = orFault fault? (g a) := by
  cases fault? <;> rfl

theorem orFault_eq_ok_iff {a' : α} : orFault fault? a = .ok a' ↔ fault? = none ∧ a = a' := by
  cases fault? <;> simp [orFault]

theorem orFault_eq_error_iff : orFault fault? a = .error e ↔ fault? = some e := by
  cases fault? <;> simp [orFault]

end

/-! ### Steps that record -/

section

variable {xs : List α}

theorem value_run_bind (m : ExceptT ε Logged α) (f : α → ExceptT ε Logged β) :
    (m >>= f).run.value = m.run.value >>= fun a => (f a).run.value := by
  rw [ExceptT.run_bind, Logged.value_bind]
  cases m.run.value <;> rfl

theorem run_bind_of_ok {m : ExceptT ε Logged α} {a : α} {log : List Log.Record}
    (h : m.run = ⟨.ok a, log⟩) (f : α → ExceptT ε Logged β) :
    (m >>= f).run = ⟨(f a).run.value, log ++ (f a).run.log⟩ := by
  rw [ExceptT.run_bind, h]
  rfl

theorem run_map (g : α → β) (m : ExceptT ε Logged α) :
    (g <$> m).run = ⟨m.run.value.map g, m.run.log⟩ := by
  rw [ExceptT.run_map]
  refine Logged.ext ?_ (Logged.log_map _ _)
  cases h : m.run.value <;> simp [h, Except.map]

/-- What a list of steps comes to, if each step has a result or a failure of its own: the first
failure is that of the list. -/
theorem value_run_mapM {f : α → ExceptT ε Logged β} {fault? : α → Option ε} {g : α → β}
    (h : ∀ x ∈ xs, (f x).run.value = orFault (fault? x) (g x)) :
    (xs.mapM f).run.value = orFault (xs.findSome? fault?) (xs.map g) := by
  induction xs with
  | nil => rfl
  | cons x xs ih =>
    obtain ⟨hx, hxs⟩ := List.forall_mem_cons.mp h
    rw [List.mapM_cons, value_run_bind, hx, List.findSome?_cons]
    cases fault? x with
    | some e => rfl
    | none =>
      refine (value_run_bind _ _).trans ?_
      rw [ih hxs]
      cases xs.findSome? fault? <;> rfl

/-- Steps that do not fail record what each of them records, in order. -/
theorem run_mapM_of_ok {f : α → ExceptT ε Logged β} {g : α → β} {log : α → List Log.Record}
    (h : ∀ x ∈ xs, (f x).run = ⟨.ok (g x), log x⟩) :
    (xs.mapM f).run = ⟨.ok (xs.map g), xs.flatMap log⟩ := by
  induction xs with
  | nil => rfl
  | cons x xs ih =>
    obtain ⟨hx, hxs⟩ := List.forall_mem_cons.mp h
    rw [List.mapM_cons, run_bind_of_ok hx, run_bind_of_ok (ih hxs)]
    refine Logged.ext rfl ?_
    change log x ++ (xs.flatMap log ++ []) = _
    rw [List.append_nil, List.flatMap_cons]

end

end ProjectLint
