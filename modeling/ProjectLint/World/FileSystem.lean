import ProjectLint.World.SystemError

/-!
# Files

A file system gives nodes to places. A place is the list of names that leads to it from the root,
which is always a directory.

## Main definitions

* `Node`: what stands at a place.
* `FileSystem`: the nodes at all places.
* `FileSystem.put`, `FileSystem.remove`: changes.
* `FileSystem.walk`: the place to which names lead, one after another.
-/

namespace ProjectLint

/-- What stands at a place. -/
inductive Node
  /-- A directory. -/
  | directory
  /-- A regular file. -/
  | file (content : List UInt8) (executable : Bool)
  /-- A regular file that cannot be opened. -/
  | unreadable (executable : Bool)
  /-- Something that is neither a directory nor a regular file. -/
  | pipe (executable : Bool)
  /-- A node about which nothing is told, nor about anything below it. -/
  | denied
  deriving DecidableEq, Repr

namespace Node

/-- A regular file. -/
def isRegular : Node → Bool
  | file .. => true
  | unreadable _ => true
  | _ => false

/-- A node that is no directory and can be started. -/
def isProgram : Node → Bool
  | file _ executable => executable
  | unreadable executable => executable
  | pipe executable => executable
  | _ => false

end Node

/-- A list of names that lead from the root to a node. -/
abbrev Place := List String

/-- The nodes at all places but the root. Names and paths may be limited in their lengths, which are
counted in bytes. -/
structure FileSystem where
  nodes : List (Place × Node)
  /-- The length of the longest name that can be looked up, if there is a longest one. -/
  longestName? : Option Nat := none
  /-- The length of the longest path that can be looked up, if there is a longest one. -/
  longestPath? : Option Nat := none
  /-- The directory of the user in the list of users, if the user is listed. -/
  userDirectory? : Option String := some "/root"
  deriving DecidableEq, Repr

namespace FileSystem

/-- Nothing but the root. -/
def empty : FileSystem := { nodes := [] }

/-- The node at a place. -/
def node? (fs : FileSystem) : Place → Option Node
  | [] => some .directory
  | place => fs.nodes.lookup place

/-- The file system with a node at a place, in place of what stood there. -/
def replace (fs : FileSystem) (place : Place) (node : Node) : FileSystem :=
  { fs with nodes := (place, node) :: fs.nodes.filter fun entry => entry.1 ≠ place }

/-- The file system with directories at a place and at all places above it where nothing stood. -/
def makeDirectories (fs : FileSystem) (place : Place) : FileSystem :=
  ((List.range place.length).map fun n => place.take (n + 1)).foldl
    (fun fs p => if (fs.node? p).isNone then fs.replace p .directory else fs) fs

/-- The file system with a node at a place and directories above it. -/
def put (fs : FileSystem) (place : Place) (node : Node) : FileSystem :=
  (fs.makeDirectories place.dropLast).replace place node

/-- The file system without a place and all places below it. -/
def remove (fs : FileSystem) (place : Place) : FileSystem :=
  { fs with nodes := fs.nodes.filter fun entry => !place.isPrefixOf entry.1 }

/-- Whether a text is longer than a limit, if there is one. -/
def exceeds (longest? : Option Nat) (text : String) : Bool := longest?.any (· < text.utf8ByteSize)

/-- The place to which names lead from a place. Every step needs a directory to start from, also one
that stays or goes up; the root is above itself. -/
def walk (fs : FileSystem) (place : Place) : List String → Except SystemError.Cause Place
  | [] => .ok place
  | name :: names =>
    match fs.node? place with
    | none => .error .notFound
    | some .denied => .error .accessDenied
    | some .directory =>
      if name = "" ∨ name = "." then fs.walk place names
      else if name = ".." then fs.walk place.dropLast names
      else if exceeds fs.longestName? name then .error .nameTooLong
      else match fs.node? (place ++ [name]) with
        | none => .error .notFound
        | some .denied => .error .accessDenied
        | some _ => fs.walk (place ++ [name]) names
    | some _ => .error .notDirectory

@[simp] theorem node?_nil (fs : FileSystem) : fs.node? [] = some .directory := rfl

@[simp] theorem walk_nil (fs : FileSystem) (place : Place) : fs.walk place [] = .ok place := rfl

end FileSystem

end ProjectLint
