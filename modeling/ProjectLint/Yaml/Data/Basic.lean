import ProjectLint.Config.Value
import ProjectLint.Yaml.Fault
import ProjectLint.Yaml.Node.Basic

/-!
# The data of a document

A node becomes a datum: a single value, or a collection that is told apart from others by the place
of its node. Collections hold data, and so may hold themselves; those that do not unfold to a value.

## Main definitions

* `Yaml.Datum`: what a node becomes.
* `Yaml.Datum.sameKey`: data that are the same key.
* `Yaml.Collection`: what a collection holds.
* `Yaml.Data`: the outermost datum, and what all collections hold.
* `Yaml.Data.value`: the value of a document.

## Main results

* `Yaml.Datum.sameKey_single`: values that are the same key are the same key as data.
-/

namespace ProjectLint.Yaml

/-- What a node becomes. -/
inductive Datum
  /-- A value that has no parts. What is not a number is told apart by its `origin`: the node that
  it comes from, or none for the one that all of its usual spellings stand for. -/
  | single (v : Value) (origin : Option NodeId)
  /-- The collection of a node. -/
  | collection (id : NodeId)
  deriving Repr

namespace Datum

/-- Whether a datum is a collection. A collection is no key. -/
def isCollection : Datum → Bool
  | collection _ => true
  | _ => false

/-- The value of a datum without parts; a collection counts as none. -/
def own : Datum → Value
  | single v _ => v
  | collection _ => .null

/-- Whether a value is a floating-point value that is not a number. -/
def isNan : Value → Bool
  | .float .nan => true
  | _ => false

/-- Data that are the same key: the same value, or one and the same that is not a number. -/
def sameKey : Datum → Datum → Bool
  | single v o, single w p => v.sameKey w || (isNan v && isNan w && o = p)
  | _, _ => false

/-- Values that are the same key are the same key as data. -/
theorem sameKey_single {v w : Value} (h : v.sameKey w = true) (o p : Option NodeId) :
    (single v o).sameKey (single w p) = true := by
  simp [sameKey, h]

end Datum

/-! ### Mappings -/

/-- The entries with a datum for a key. A later datum replaces an earlier one. -/
def insertEntry (entries : List (Datum × Datum)) (key d : Datum) : List (Datum × Datum) :=
  match entries with
  | [] => [(key, d)]
  | (k, x) :: rest =>
    if k.sameKey key then (k, d) :: rest else (k, x) :: insertEntry rest key d

/-- The entries of a mapping, of which a later one replaces an earlier one with the same key. -/
def collect (entries : List (Datum × Datum)) : List (Datum × Datum) :=
  entries.foldl (fun es e => insertEntry es e.1 e.2) []

/-! ### Collections -/

/-- What a collection holds. -/
inductive Collection
  | list (items : List Datum)
  | pairs (items : List (Datum × Datum))
  | set (keys : List Datum)
  | map (entries : List (Datum × Datum))
  deriving Repr

/-- The name of a collection's type. -/
def Collection.typeName : Collection → String
  | list _ => (Value.list []).typeName
  | pairs _ => (Value.list []).typeName
  | set _ => (Value.set []).typeName
  | map _ => (Value.map []).typeName

/-- The outermost datum of a document, and what the collections of its nodes hold. -/
structure Data where
  root : Datum
  collections : Array (Option Collection)
  deriving Repr

namespace Data

/-- What the collection of a node holds. -/
def holds (d : Data) (id : NodeId) : Collection := (d.collections[id]?.join).getD (.list [])

/-- The name of the type of a datum. -/
def typeName (d : Data) : Datum → String
  | .single v _ => v.typeName
  | .collection id => (d.holds id).typeName

/-- Whether a document has no value. -/
def isNull (d : Data) : Bool :=
  match d.root with
  | .single .null _ => true
  | _ => false

/-- Whether a document is a mapping. -/
def isMapping (d : Data) : Bool :=
  match d.root with
  | .single _ _ => false
  | .collection id => match d.holds id with
    | .map _ => true
    | _ => false

/-- The value of a datum that is inside the collections `above`, where at most `fuel` collections
are left. A list or a mapping that holds itself has no value. A pair is never looked into, so it
does not matter if it holds what it is in (`hidden`): its part is then left out. -/
def unfold (d : Data) : (fuel : Nat) → (above : List NodeId) → (hidden : Bool) → Datum →
    Except Fault Value
  | _, _, _, .single v _ => .ok v
  | 0, _, hidden, .collection _ => if hidden then .ok .null else .error .recursive
  | fuel + 1, above, hidden, .collection id =>
    if id ∈ above then (if hidden then .ok .null else .error .recursive)
    else match d.holds id with
      | .list items => Value.list <$> items.mapM (d.unfold fuel (id :: above) hidden)
      | .pairs items => Value.list <$> items.mapM fun p => do
        return .pair (← d.unfold fuel (id :: above) true p.1)
          (← d.unfold fuel (id :: above) true p.2)
      | .set keys => .ok (.set (keys.map Datum.own))
      | .map entries => Value.map <$> entries.mapM fun e => do
        return (e.1.own, ← d.unfold fuel (id :: above) hidden e.2)

/-- The value of a document, if it has one. -/
def value (d : Data) : Except Fault Value := d.unfold (d.collections.size + 1) [] false d.root

end Data

end ProjectLint.Yaml
