import ProjectLint.Config.Reference
import ProjectLint.Config.Value

/-!
# Expanding configurations

Every text in a configuration has its references replaced, at any depth; keys stay as they are.

## Main definitions

* `Value.expand`: a value with all references replaced.
-/

namespace ProjectLint

open Config Text

mutual

/-- A value with the references in its texts replaced. -/
def Value.expand (environment : Environment) : Value → Expansion Value
  | .str s => Value.ofLetters <$> expandText environment (Letter.ofText s)
  | .illFormed text => Value.ofLetters <$> expandText environment text
  | .list items => Value.list <$> expandItems environment items
  | .map es => Value.map <$> Entries.expand environment es
  | v => pure v

/-- Values with the references in their texts replaced, in order. -/
def expandItems (environment : Environment) : List Value → Expansion (List Value)
  | [] => pure []
  | v :: vs => do
    let v ← Value.expand environment v
    let vs ← expandItems environment vs
    return v :: vs

/-- Entries with the references in their values replaced, in order. -/
def Entries.expand (environment : Environment) :
    List (Value × Value) → Expansion (List (Value × Value))
  | [] => pure []
  | (key, v) :: es => do
    let v ← Value.expand environment v
    let es ← Entries.expand environment es
    return (key, v) :: es

end

end ProjectLint
