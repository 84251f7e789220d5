import ProjectLint.Path
import ProjectLint.World.Environment
import ProjectLint.World.FileSystem

/-!
# The world of a run

What the program can see around it: files, environment variables and the directory that it was
started in.

## Main definitions

* `World`: files, variables and a working directory.
* `World.status`: the node that a path leads to.
* `World.isDirectory`, `World.isFile`, `World.contains`: questions about a path.
* `World.read`: the content of a file.
* `World.search`: the program of a given name.
-/

namespace ProjectLint

/-- What the program can see around it. -/
structure World where
  files : FileSystem
  environment : Environment
  directory : String
  deriving DecidableEq, Repr

namespace World

/-- The names in a path, between its slashes. -/
def names (path : String) : List String := (path.toList.splitOn '/').map String.ofList

/-- The place at which a path begins to lead: the root, or the working directory. -/
def start (w : World) (path : String) : Place :=
  if path.toList.head? = some '/' then [] else (Path.ofText w.directory).parts

/-- The place to which a path leads. -/
def place (w : World) (path : String) : Except SystemError.Cause Place :=
  if path.isEmpty then .error .notFound
  else if FileSystem.exceeds w.files.longestPath? path then .error .nameTooLong
  else w.files.walk (w.start path) (names path)

/-- The node to which a path leads. -/
def status (w : World) (path : String) : Except FileFault Node :=
  if '\x00' ∈ path.toList then .error .nulInPath
  else match w.place path with
    | .error cause => .error (.refused ⟨cause, path⟩)
    | .ok place => match w.files.node? place with
      | none => .error (.refused ⟨.notFound, path⟩)
      | some .denied => .error (.refused ⟨.accessDenied, path⟩)
      | some node => .ok node

/-- Whether a path leads to a directory. -/
def isDirectory (w : World) (path : String) : Bool :=
  match w.status path with
  | .ok .directory => true
  | _ => false

/-- The answer to a question about a path: a path that leads nowhere gives `false`, and only a
refusal to look is an error. -/
def ask (w : World) (question : Node → Bool) (path : String) : Except FileFault Bool :=
  match w.status path with
  | .ok node => .ok (question node)
  | .error .nulInPath => .ok false
  | .error (.refused e) =>
    if e.cause = .notFound ∨ e.cause = .notDirectory then .ok false else .error (.refused e)

/-- Whether a path leads to a regular file. -/
def isFile (w : World) (path : String) : Except FileFault Bool := w.ask Node.isRegular path

/-- Whether a path leads anywhere. -/
def contains (w : World) (path : String) : Except FileFault Bool := w.ask (fun _ => true) path

/-- The content of a file. What is neither a directory nor a regular file has none. -/
def read (w : World) (path : String) : Except FileFault (List UInt8) :=
  match w.status path with
  | .error e => .error e
  | .ok .directory => .error (.refused ⟨.isDirectory, path⟩)
  | .ok (.file content _) => .ok content
  | .ok (.pipe _) => .ok []
  | .ok (.unreadable _) => .error (.refused ⟨.accessDenied, path⟩)
  | .ok .denied => .error (.refused ⟨.accessDenied, path⟩)

/-! ### Programs -/

/-- Whether a path leads to a program. -/
def isProgram (w : World) (path : String) : Bool :=
  match w.status path with
  | .ok node => node.isProgram
  | .error _ => false

/-- The directories in which programs are looked for. An entry may be empty, and then stands for the
working directory. -/
def searchDirectories (w : World) : List String :=
  match w.environment.get? "PATH" with
  | none => ["/bin", "/usr/bin"]
  | some path => if path.isEmpty then [] else (path.toList.splitOn ':').map String.ofList

/-- The path of the program of a given name. A name with a slash is a path and is not searched
for. -/
def search (w : World) (name : String) : Option String :=
  if '/' ∈ name.toList then (if w.isProgram name then some name else none)
  else (w.searchDirectories.map fun d => Path.joinText d name).find? w.isProgram

/-! ### Changes -/

/-- The world with a node at an absolute path. -/
def put (w : World) (path : String) (node : Node) : World :=
  { w with files := w.files.put (Path.ofText path).parts node }

/-- The world without what an absolute path leads to. -/
def remove (w : World) (path : String) : World :=
  { w with files := w.files.remove (Path.ofText path).parts }

/-- The world with a variable. -/
def setVariable (w : World) (name value : String) : World :=
  { w with environment := w.environment.set name value }

/-- The world without a variable. -/
def unsetVariable (w : World) (name : String) : World :=
  { w with environment := w.environment.unset name }

/-- The world of given variables and files, in which the working directory exists. -/
def ofFiles (directory : String) (environment : Environment) (files : List (String × Node)) :
    World :=
  let fs := FileSystem.empty.makeDirectories (Path.ofText directory).parts
  files.foldl (fun w entry => w.put entry.1 entry.2) ⟨fs, environment, directory⟩

end World

end ProjectLint
