import ProjectLint.Config.Value

/-!
# Merging configurations

A stronger configuration is laid over a weaker one. Where both have a mapping for a key the two are
merged; otherwise the value of the stronger one replaces that of the weaker one.

## Main definitions

* `Value.over`: a value laid over another one, if there is another one.
* `Entries.over`: a mapping laid over another one.

## Main results

* `Entries.nil_over`: nothing laid over a mapping changes nothing.
-/

namespace ProjectLint

mutual

/-- A value laid over the one that a weaker configuration has, if it has one. -/
def Value.over (weaker : Option Value) : Value → Value
  | .map stronger =>
    match weaker with
    | some (.map es) => .map (Entries.over es stronger)
    | _ => .map stronger
  | v => v

/-- A mapping laid over a weaker one: its entries are taken one after another. -/
def Entries.over (weaker : List (Value × Value)) : List (Value × Value) → List (Value × Value)
  | [] => weaker
  | (key, value) :: stronger =>
    Entries.over (Entries.set weaker key (Value.over (Entries.get? weaker key) value)) stronger

end

/-- Nothing laid over a mapping changes nothing. -/
@[simp] theorem Entries.nil_over (weaker : Entries) : Entries.over weaker [] = weaker := by
  simp [Entries.over]

/-- A mapping laid over another one stays a mapping, and so does any other value. -/
@[simp] theorem Value.isMap_over (weaker : Option Value) (v : Value) :
    (Value.over weaker v).isMap = v.isMap := by
  cases v with
  | map stronger =>
    rcases weaker with _ | w
    · simp [Value.over, Value.isMap]
    · cases w <;> simp [Value.over, Value.isMap]
  | _ => simp [Value.over, Value.isMap]

end ProjectLint
