/-!
# Environment variables

An environment gives values to names. No name occurs twice.

## Main definitions

* `Environment`: a list of variables.
* `Environment.get?`, `Environment.set`, `Environment.unset`: reading and changing a variable.
* `Environment.getBytes?`: reading a variable by the bytes of its name.

## Main results

* `Environment.get?_set`, `Environment.get?_unset`: what a variable has after a change.
-/

namespace ProjectLint

/-- An environment: names and their values. -/
structure Environment where
  vars : List (String × String)
  deriving DecidableEq, Repr

namespace Environment

/-- The environment without a variable. -/
def empty : Environment := ⟨[]⟩

/-- The value of a variable. -/
def get? (e : Environment) (name : String) : Option String := e.vars.lookup name

/-- The value of the variable whose name is made of some bytes. -/
def getBytes? (e : Environment) (bytes : List UInt8) : Option String :=
  (e.vars.find? fun v => v.1.toByteArray.data.toList = bytes).map (·.2)

/-- The environment without a variable of the given name. -/
def unset (e : Environment) (name : String) : Environment :=
  ⟨e.vars.filter fun v => v.1 ≠ name⟩

/-- The environment in which a variable has the given value. -/
def set (e : Environment) (name value : String) : Environment :=
  ⟨(e.unset name).vars ++ [(name, value)]⟩

@[simp] theorem get?_empty (name : String) : empty.get? name = none := rfl

/-- A removed variable has no value; the others keep theirs. -/
theorem get?_unset (e : Environment) (name other : String) :
    (e.unset name).get? other = if other = name then none else e.get? other := by
  obtain ⟨vars⟩ := e
  simp only [unset, get?]
  induction vars with
  | nil => simp
  | cons v vs ih =>
    obtain ⟨k, x⟩ := v
    by_cases hk : k = name
    · subst hk
      by_cases ho : other = k
      · simpa [ho] using ih
      · have hb : (other == k) = false := by simpa using ho
        simpa [ho, List.lookup_cons, hb] using ih
    · by_cases ho : other = name
      · subst ho
        have hb : (other == k) = false := beq_false_of_ne (Ne.symm hk)
        simpa [hk, List.lookup_cons, hb] using ih
      · by_cases hok : other = k
        · simp [hok, hk]
        · have hb : (other == k) = false := by simpa using hok
          simpa [hk, ho, List.lookup_cons, hb] using ih

theorem lookup_append_singleton (vars : List (String × String)) (name value other : String) :
    (vars ++ [(name, value)]).lookup other =
      (vars.lookup other).or (if other = name then some value else none) := by
  induction vars with
  | nil =>
    by_cases h : other = name
    · simp [h]
    · have hb : (other == name) = false := beq_false_of_ne h
      simp [List.lookup_cons, hb, h]
  | cons v vs ih =>
    obtain ⟨k, x⟩ := v
    by_cases h : other = k
    · simp [h]
    · have hb : (other == k) = false := by simpa using h
      simpa [List.lookup_cons, hb] using ih

/-- A variable has the value it was given; the others keep theirs. -/
theorem get?_set (e : Environment) (name value other : String) :
    (e.set name value).get? other = if other = name then some value else e.get? other := by
  have h : ((e.unset name).vars).lookup other = if other = name then none else e.get? other :=
    get?_unset e name other
  simp only [set, get?, lookup_append_singleton, h]
  by_cases ho : other = name <;> simp [ho]

end Environment

end ProjectLint
