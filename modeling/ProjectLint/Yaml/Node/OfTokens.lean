import ProjectLint.Yaml.Node.Basic
import ProjectLint.Yaml.Token.Stream

/-!
# The nodes of a document

A text holds at most one document, and the tokens of a document make up its nodes. An anchor names
the node after it, for all of the text that follows, the node's own parts included. Tokens are read
no further than they are needed, so that of two faults the one that is met first counts.

## Main definitions

* `Yaml.Composer`: the tokens that are left, the tag handles and the nodes.
* `Yaml.Composer.node`: the node at the front of the tokens.
* `Yaml.Document.ofText?`: the document of a text, if the text holds one.
-/

namespace ProjectLint.Yaml

open Text (Letter)

/-- What is known while a document is made up of its tokens. -/
structure Composer where
  /-- The tokens that are left. -/
  reader : Reader
  /-- A number of steps that is enough to read the text. -/
  limit : Nat
  /-- What the tag handles stand for. -/
  handles : List (List Char × List Char)
  /-- The nodes with names. -/
  named : List (List Char × NodeId)
  /-- The nodes so far. -/
  nodes : Nodes
  deriving Repr

/-- A step that reads tokens. -/
abbrev Compose := StateT Composer (Except Fault)

namespace Composer

/-- A malformed document. -/
def fail {α : Type} : Compose α := throw .malformed

/-- The next token. -/
def peek : Compose Token := do
  let s ← get
  let r ← s.reader.ready s.limit
  set { s with reader := r }
  return r.next

/-- Goes on to the token after the next one. -/
def skip : Compose Unit := modify fun s => { s with reader := s.reader.take }

/-- Goes on if the next token is the given one. -/
def skipIf (t : Token) : Compose Bool := do
  if (← peek) = t then
    skip
    return true
  else return false

/-- Goes on; the next token has to be the given one. -/
def expect (t : Token) : Compose Unit := do
  if (← skipIf t) then return () else fail

/-! ### Properties of a node -/

/-- The anchor and the tag of a node. -/
structure Properties where
  anchor : Option (List Char)
  tag : Option (List Char)
  deriving DecidableEq, Repr

/-- The anchor at the front of the tokens, if there is one. -/
def anchor? : Compose (Option (List Char)) := do
  match ← peek with
  | .anchor name =>
    skip
    return some name
  | _ => return none

/-- A tag as it is written: a handle if there is one, and what follows it. -/
abbrev WrittenTag := Option (List Char) × List Char

/-- The tag at the front of the tokens, if there is one. -/
def tag? : Compose (Option WrittenTag) := do
  match ← peek with
  | .tag handle suffix =>
    skip
    return some (handle, suffix)
  | _ => return none

/-- A tag with its handle replaced by what it stands for. -/
def resolve : Option WrittenTag → Compose (Option (List Char))
  | none => return none
  | some (none, suffix) => return some suffix
  | some (some handle, suffix) => do
    match (← get).handles.lookup handle with
    | some expansion => return some (expansion ++ suffix)
    | none => fail

/-- The properties at the front of the tokens, in either order. -/
def properties : Compose Properties := do
  match ← anchor? with
  | some name => return ⟨some name, ← resolve (← tag?)⟩
  | none =>
    let tag ← tag?
    let anchor ← if tag.isSome then anchor? else pure none
    return ⟨anchor, ← resolve tag⟩

/-- A tag that leaves the kind open. -/
def isOpen (tag : Option (List Char)) : Bool := tag.all (· = ['!'])

/-- The kind of a scalar: the one of its tag, and without one the one that its form implies if it is
plain. The open tag has the form decide for every scalar. -/
def scalarKind (tag : Option (List Char)) (text : List Letter) (plain : Bool) : Kind :=
  let implied := Kind.ofPlain (text.map Letter.toChar)
  match tag with
  | none => if plain then implied else .str
  | some tag => if tag = ['!'] then implied else .ofTag tag

/-- The kind of a collection: the one of its tag, or the usual one. -/
def collectionKind (tag : Option (List Char)) (usual : Kind) : Kind :=
  if isOpen tag then usual else .ofTag (tag.getD [])

/-- Adds a node, under a name if it has an anchor. No name is given twice. -/
def add (anchor : Option (List Char)) (n : Node) : Compose NodeId := do
  let s ← get
  let id := s.nodes.size
  match anchor with
  | none => set { s with nodes := s.nodes.push n }
  | some name =>
    if (s.named.lookup name).isSome then fail
    else set { s with nodes := s.nodes.push n, named := (name, id) :: s.named }
  return id

/-- Adds a collection, which has its name before its parts are read. -/
def collection (anchor : Option (List Char)) (empty : Node) (read : Compose Node) :
    Compose NodeId := do
  let id ← add anchor empty
  let n ← read
  modify fun s => { s with nodes := s.nodes.setIfInBounds id n }
  return id

/-- Adds a sequence of the given kind. -/
def sequence (anchor : Option (List Char)) (kind : Kind) (items : Compose (List NodeId)) :
    Compose NodeId :=
  collection anchor (.sequence kind []) (Node.sequence kind <$> items)

/-- Adds a mapping of the given kind. -/
def mapping (anchor : Option (List Char)) (kind : Kind)
    (entries : Compose (List (NodeId × NodeId))) : Compose NodeId :=
  collection anchor (.mapping kind []) (Node.mapping kind <$> entries)

/-- Adds the node for what is left out. -/
def absent : Compose NodeId := add none Node.absent

/-- The node that an alias stands for. -/
def aliased (name : List Char) : Compose NodeId := do
  match (← get).named.lookup name with
  | some id => return id
  | none => fail

/-! ### Nodes -/

/-- Where a node stands. -/
inductive Position
  /-- In a flow collection. -/
  | flow
  /-- In a block collection, or outside of all collections. -/
  | block
  /-- In a block mapping, where a sequence need not be indented. -/
  | blockMapping
  deriving DecidableEq, Repr

/-- Whether a node in a flow sequence may be left out before the next token. -/
def endsFlowItem (t : Token) : Bool := t = .flowEntry || t = .flowSequenceEnd

/-- Whether a node in a flow mapping may be left out before the next token. -/
def endsFlowEntry (t : Token) : Bool := t = .flowEntry || t = .flowMappingEnd

/-- Whether a node in a block mapping may be left out before the next token. -/
def endsBlockEntry (t : Token) : Bool := t = .key || t = .value || t = .blockEnd

/-- The node that has properties and nothing else. -/
def leftOut (p : Properties) : Compose NodeId :=
  if p.anchor.isSome ∨ p.tag.isSome then
    add p.anchor (.scalar (scalarKind p.tag [] true) [])
  else fail

mutual

/-- The node at the front of the tokens, where at most `fuel` steps are left. -/
def node : (fuel : Nat) → Position → Compose NodeId
  | 0, _ => fail
  | fuel + 1, position => do
    match ← peek with
    | .alias name =>
      skip
      aliased name
    | _ =>
      let p ← properties
      let t ← peek
      if position = .blockMapping ∧ t = .blockEntry then
        sequence p.anchor (collectionKind p.tag .seq) (plainEntries fuel)
      else match t with
        | .scalar text plain =>
          skip
          add p.anchor (.scalar (scalarKind p.tag text plain) text)
        | .flowSequenceStart =>
          skip
          sequence p.anchor (collectionKind p.tag .seq) (flowItems fuel true)
        | .flowMappingStart =>
          skip
          mapping p.anchor (collectionKind p.tag .map) (flowEntries fuel true)
        | .blockSequenceStart =>
          if position = .flow then leftOut p
          else
            skip
            sequence p.anchor (collectionKind p.tag .seq) (blockItems fuel)
        | .blockMappingStart =>
          if position = .flow then leftOut p
          else
            skip
            mapping p.anchor (collectionKind p.tag .map) (blockEntries fuel)
        | _ => leftOut p

/-- The node at the front of the tokens, or the one for what is left out. -/
def nodeUnless : (fuel : Nat) → Position → (ends : Token → Bool) → Compose NodeId
  | 0, _, _ => fail
  | fuel + 1, position, ends => do
    if ends (← peek) then absent else node fuel position

/-- The items of a block sequence, up to its end. -/
def blockItems : (fuel : Nat) → Compose (List NodeId)
  | 0 => fail
  | fuel + 1 => do
    if ← skipIf .blockEntry then
      let item ← nodeUnless fuel .block fun t => t = .blockEntry || t = .blockEnd
      return item :: (← blockItems fuel)
    else
      expect .blockEnd
      return []

/-- The items of a sequence that is not indented in its mapping. -/
def plainEntries : (fuel : Nat) → Compose (List NodeId)
  | 0 => fail
  | fuel + 1 => do
    if ← skipIf .blockEntry then
      let item ← nodeUnless fuel .block fun t => t = .blockEntry || endsBlockEntry t
      return item :: (← plainEntries fuel)
    else return []

/-- The entries of a block mapping, up to its end. -/
def blockEntries : (fuel : Nat) → Compose (List (NodeId × NodeId))
  | 0 => fail
  | fuel + 1 => do
    if ← skipIf .key then
      let key ← nodeUnless fuel .blockMapping endsBlockEntry
      let value ← valueUnless fuel .blockMapping endsBlockEntry
      return (key, value) :: (← blockEntries fuel)
    else
      expect .blockEnd
      return []

/-- The value of a key, which may be left out together with its indicator. -/
def valueUnless : (fuel : Nat) → Position → (ends : Token → Bool) → Compose NodeId
  | 0, _, _ => fail
  | fuel + 1, position, ends => do
    if ← skipIf .value then nodeUnless fuel position ends else absent

/-- The items of a flow sequence, up to its end; a comma stands before each but the first. A key in
it begins a mapping of a single entry. -/
def flowItems : (fuel : Nat) → (first : Bool) → Compose (List NodeId)
  | 0, _ => fail
  | fuel + 1, first => do
    if ← skipIf .flowSequenceEnd then return []
    else
      if !first then expect .flowEntry
      if ← skipIf .key then
        let item ← mapping none .map do
          let key ← nodeUnless fuel .flow fun t => t = .value || endsFlowItem t
          return [(key, ← valueUnless fuel .flow endsFlowItem)]
        return item :: (← flowItems fuel false)
      else if ← skipIf .flowSequenceEnd then return []
      else
        let item ← node fuel .flow
        return item :: (← flowItems fuel false)

/-- The entries of a flow mapping, up to its end; a comma stands before each but the first. An entry
may be a key alone. -/
def flowEntries : (fuel : Nat) → (first : Bool) → Compose (List (NodeId × NodeId))
  | 0, _ => fail
  | fuel + 1, first => do
    if ← skipIf .flowMappingEnd then return []
    else
      if !first then expect .flowEntry
      if ← skipIf .key then
        let key ← nodeUnless fuel .flow fun t => t = .value || endsFlowEntry t
        let value ← valueUnless fuel .flow endsFlowEntry
        return (key, value) :: (← flowEntries fuel false)
      else if ← skipIf .flowMappingEnd then return []
      else
        let key ← node fuel .flow
        let value ← absent
        return (key, value) :: (← flowEntries fuel false)

end

/-! ### Documents -/

/-- The tag handles that are always known. -/
def usualHandles : List (List Char × List Char) :=
  [(['!'], ['!']), (['!', '!'], Kind.tagNamespace)]

/-- The directives at the front of the tokens, of which at most `fuel` are left. The version is
given at most once and is one that is known, and no handle is given twice. -/
def directives : (fuel : Nat) → (versioned : Bool) → Compose Unit
  | 0, _ => fail
  | fuel + 1, versioned => do
    match ← peek with
    | .directive (.version major _) =>
      if versioned ∨ major ≠ 1 then fail
      else
        skip
        directives fuel true
    | .directive (.handle name expansion) =>
      let s ← get
      if (s.handles.lookup name).isSome then fail
      else
        set { s with handles := (name, expansion) :: s.handles }
        skip
        directives fuel versioned
    | .directive .other =>
      skip
      directives fuel versioned
    | _ => return ()

/-- Skips marks of a document's end, of which at most `fuel` are left. -/
def skipEnds : (fuel : Nat) → Compose Unit
  | 0 => return ()
  | fuel + 1 => do
    if ← skipIf .documentEnd then skipEnds fuel

/-- Whether a document is empty before the next token. -/
def endsDocument : Token → Bool
  | .directive _ => true
  | .documentStart => true
  | .documentEnd => true
  | .streamEnd => true
  | _ => false

/-- The end of a text after its document: marks of its end, and nothing else. -/
def close (fuel : Nat) : Compose Unit := do
  skipEnds fuel
  if (← peek) = .streamEnd then return ()
  else
    modify fun s => { s with handles := [] }
    directives fuel false
    fail

/-- The document of a text, if there is one. A document begins with a mark if there are directives
before it, and may do so in any case. -/
def document (fuel : Nat) : Compose (Option NodeId) := do
  match ← peek with
  | .streamEnd => return none
  | .directive _ | .documentStart =>
    directives fuel false
    modify fun s => { s with handles := s.handles ++ usualHandles }
    expect .documentStart
    let root ← if endsDocument (← peek) then absent else node fuel .block
    close fuel
    return some root
  | _ =>
    modify fun s => { s with handles := usualHandles }
    let root ← node fuel .block
    close fuel
    return some root

end Composer

/-- A number of steps that is enough to read a text and to make up its document: a character gives
rise to at most five tokens, and a token to at most four steps. -/
def stepLimit (cs : List Char) : Nat := 20 * (cs.length + 2)

/-- The document of a text, if the text holds one. -/
def Document.ofText? (cs : List Char) : Except Fault (Option Document) := do
  let limit := stepLimit cs
  let s : Composer :=
    { reader := ← Reader.ofText cs, limit := limit, handles := [], named := [], nodes := #[] }
  let (root, s) ← (Composer.document limit).run s
  return root.map fun root => ⟨s.nodes, root⟩

end ProjectLint.Yaml
