import ProjectLint.Yaml.Fault
import ProjectLint.Yaml.Node.Basic

/-!
# Merging mappings

A mapping may name others whose entries are merged into it. The merged entries stand in front, so
the mapping's own entries win over them, and of several mappings that are merged the last one stands
first. A mapping that has been merged stays so, wherever else the document uses it.

## Main definitions

* `Yaml.Nodes.takeMerge?`: takes an entry that asks for merging out of a mapping.
* `Yaml.Nodes.flatten`: merges into a mapping all that it asks for.
-/

namespace ProjectLint.Yaml

/-- A step that changes the nodes of a document. -/
abbrev Merge := StateT Nodes (Except Fault)

namespace Nodes

/-- The number of entries of the mapping at a place that ask for merging. -/
def mergeCount (ns : Nodes) : Node → Nat
  | .mapping _ es => es.countP fun e => ns.kind e.1 = .merge
  | _ => 0

/-- The number of all entries that ask for merging. -/
def merges (ns : Nodes) : Nat := ns.toList.foldl (fun n node => n + ns.mergeCount node) 0

/-- Makes texts of the keys for a scalar value among the keys of a mapping. -/
def makeTexts (ns : Nodes) (id : NodeId) : Nodes :=
  (ns.entries id).foldl (fun ns e => if ns.kind e.1 = .value then ns.setKind e.1 .str else ns) ns

/-- Takes the first entry that asks for merging out of the mapping at a place, and gives its
value. -/
def takeMerge? (ns : Nodes) (id : NodeId) : Option (NodeId × Nodes) :=
  let es := ns.entries id
  let isMerge := fun e : NodeId × NodeId => decide (ns.kind e.1 = .merge)
  (es.find? isMerge).map fun e => (e.2, ns.setEntries id (es.eraseP isMerge))

/-- The mappings that the value of an entry for merging names: one, or several. -/
def sources (ns : Nodes) (id : NodeId) : Except Fault (List NodeId) :=
  match ns[id]? with
  | some (.mapping _ _) => .ok [id]
  | some (.sequence _ items) =>
    if items.all fun item => ns[item]?.any Node.isMapping then .ok items else .error .malformed
  | _ => .error .malformed

/-- Puts entries in front of those of the mapping at a place. -/
def prepend (ns : Nodes) (id : NodeId) (es : List (NodeId × NodeId)) : Nodes :=
  if es = [] then ns else ns.setEntries id (es ++ ns.entries id)

/-- The entries that are merged into the mapping at a place, where at most `fuel` entries of the
document ask for merging. -/
def merged : (fuel : Nat) → NodeId → Merge (List (NodeId × NodeId))
  | 0, _ => return []
  | fuel + 1, id => do
    match (← get).takeMerge? id with
    | none => return []
    | some (value, ns) =>
      set ns
      let lists ← (← ns.sources value).mapM fun source => do
        modify fun ns => ns.makeTexts source
        let es ← merged fuel source
        modify fun ns => ns.prepend source es
        return (← get).entries source
      return lists.reverse.flatten ++ (← merged fuel id)

/-- Merges into the mapping at a place all that it asks for, where at most `fuel` entries of the
document do. -/
def flatten (fuel : Nat) (id : NodeId) : Merge Unit := do
  modify fun ns => ns.makeTexts id
  let es ← merged fuel id
  modify fun ns => ns.prepend id es

end Nodes

end ProjectLint.Yaml
