import ProjectLint.Yaml.Data.Basic
import ProjectLint.Yaml.Node.Merge
import ProjectLint.Yaml.Node.OfTokens
import ProjectLint.Yaml.Value.Scalar

/-!
# From nodes to data

A node becomes a datum once, and is the same datum wherever it is used. A collection is empty at
first and waits to be filled: all collections that wait are filled in turn before those that begin
to wait meanwhile. So a fault of the outermost collection is met first, then the faults of the
collections in it, and so on.

## Main definitions

* `Yaml.Builder`: the nodes, the data made of them, and the collections that wait.
* `Yaml.Builder.datum`: what a node becomes.
* `Yaml.Builder.fill`: fills a collection.
* `Yaml.Document.data`: the data of a document.
* `Yaml.read`: the data of a text.
-/

namespace ProjectLint.Yaml

open Text (Letter)

/-- What is known while nodes become data. -/
structure Builder where
  nodes : Nodes
  /-- The number of entries that asked for merging at first. -/
  merges : Nat
  /-- The data made so far, by the places of their nodes. -/
  made : Array (Option Datum)
  /-- The collections filled so far. -/
  collections : Array (Option Collection)
  /-- The collections that wait, the last one first. -/
  waiting : List NodeId
  deriving Repr

/-- A step that makes data of nodes. -/
abbrev Build := StateT Builder (Except Fault)

namespace Builder

/-- The state before anything is made. -/
def start (ns : Nodes) : Builder :=
  { nodes := ns, merges := ns.merges, made := Array.replicate ns.size none,
    collections := Array.replicate ns.size none, waiting := [] }

/-! ### Single values -/

/-- The kinds of collections. -/
def isCollection : Kind → Bool
  | .seq | .map | .set | .omap | .pairs => true
  | _ => false

/-- The text that a node has as a scalar, where at most `fuel` mappings are inside each other. A
mapping has the one of its entry for the scalar value. -/
def scalarText (ns : Nodes) : (fuel : Nat) → NodeId → Except Fault (List Letter)
  | 0, _ => .error .recursive
  | fuel + 1, id =>
    match ns[id]? with
    | some (.scalar _ text) => .ok text
    | some (.mapping _ entries) =>
      match entries.find? fun e => ns.kind e.1 = .value with
      | some (_, v) => scalarText ns fuel v
      | none => .error .malformed
    | _ => .error .malformed

/-- The single value of the node at a place, which is of a kind that is no collection. -/
def single (ns : Nodes) (id : NodeId) : Except Fault Datum :=
  match ns.kind id with
  | .merge | .value | .other => .error .malformed
  | kind => do
    let text ← scalarText ns (ns.size + 1) id
    if kind = .timestamp ∧ ns[id]?.any Node.isMapping then throw .dateMapping
    return .single (← scalarValue text kind) (if isUsualNan text then none else some id)

/-- What the node at a place becomes. -/
def datum (id : NodeId) : Build Datum := do
  let s ← get
  match s.made[id]?.join with
  | some d => return d
  | none =>
    if isCollection (s.nodes.kind id) then
      set { s with
        made := s.made.setIfInBounds id (some (.collection id)), waiting := id :: s.waiting }
      return .collection id
    else
      let d ← single s.nodes id
      set { s with made := s.made.setIfInBounds id (some d) }
      return d

/-! ### Collections -/

/-- The data of an entry. Its key is no collection. -/
def entry (e : NodeId × NodeId) : Build (Datum × Datum) := do
  let key ← datum e.1
  if key.isCollection then throw .malformed
  return (key, ← datum e.2)

/-- The entries of the mapping at a place, after all that it asks for has been merged into it. -/
def entries (id : NodeId) : Build (List (Datum × Datum)) := do
  let s ← get
  if !s.nodes[id]?.any Node.isMapping then throw .malformed
  let (_, nodes) ← (Nodes.flatten s.merges id).run s.nodes
  set { s with nodes := nodes }
  return collect (← (nodes.entries id).mapM entry)

/-- The items of the sequence at a place. -/
def items (id : NodeId) : Build (List NodeId) := do
  match (← get).nodes[id]? with
  | some (.sequence _ items) => return items
  | _ => throw .malformed

/-- The data of an item that is a pair: a mapping with a single entry. -/
def pair (id : NodeId) : Build (Datum × Datum) := do
  match (← get).nodes[id]? with
  | some (.mapping _ [(first, second)]) => return (← datum first, ← datum second)
  | _ => throw .malformed

/-- What the collection of the node at a place holds. -/
def contents (id : NodeId) : Build Collection := do
  match (← get).nodes.kind id with
  | .seq => return .list (← (← items id).mapM datum)
  | .omap | .pairs => return .pairs (← (← items id).mapM pair)
  | .set => return .set ((← entries id).map (·.1))
  | .map => return .map (← entries id)
  | _ => throw .malformed

/-- Fills the collection of the node at a place. -/
def fill (id : NodeId) : Build Unit := do
  let c ← contents id
  modify fun s => { s with collections := s.collections.setIfInBounds id (some c) }

/-- Fills the collections that wait, and then those that wait after that, at most `fuel` times. -/
def fillAll : (fuel : Nat) → Build Unit
  | 0 => return ()
  | fuel + 1 => do
    let s ← get
    if s.waiting = [] then return ()
    else
      set { s with waiting := [] }
      s.waiting.reverse.forM fill
      fillAll fuel

end Builder

/-- The data of a document. -/
def Document.data (d : Document) : Except Fault Data := do
  let build : Build Datum := do
    let root ← Builder.datum d.root
    Builder.fillAll (d.nodes.size + 1)
    return root
  let (root, s) ← build.run (Builder.start d.nodes)
  return ⟨root, s.collections⟩

/-- The data of a text: those of its document, and no value if it holds none. -/
def read (cs : List Char) : Except Fault Data := do
  match ← Document.ofText? cs with
  | none => return ⟨.single .null none, #[]⟩
  | some d => d.data

end ProjectLint.Yaml
