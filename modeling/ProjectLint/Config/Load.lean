import ProjectLint.Config.Check
import ProjectLint.Config.Expand
import ProjectLint.Config.Interpret
import ProjectLint.Config.Merge
import ProjectLint.Text.Utf8
import ProjectLint.World.Basic
import ProjectLint.Yaml.Data.OfDocument

/-!
# Loading a configuration

A configuration is laid out in layers: the global file, then a file that is asked for or the one of
the project, then what the command line says. A stronger layer is laid over the weaker ones. A
global file that cannot be used is passed over with a warning.

## Main definitions

* `Config.LoadFault`: why nothing is loaded.
* `Config.userDirectory?`, `Config.home`: the directory of the user, and that of the global file.
* `Config.readEntries`: the entries of a file.
* `Config.load`: the settings of all layers.
-/

namespace ProjectLint.Config

open Log

/-- Why a configuration cannot be loaded. -/
inductive LoadFault
  /-- The file that is asked for does not exist. -/
  | notFound (path : String)
  /-- A file is no document. -/
  | invalid (path : String)
  /-- A document is no mapping. -/
  | notMapping (typeName : String)
  /-- Something is wrong with a document. -/
  | yaml (e : Yaml.Fault)
  /-- A file cannot be read. -/
  | file (e : FileFault)
  /-- A file is no text. -/
  | undecodable (e : Text.Utf8.Fault)
  /-- A reference in a file names no variable that can be looked up. -/
  | unencodable (e : Text.Letter.EncodeFault)
  /-- The user has no directory in which a global file could be. -/
  | homeless
  /-- A mistake in a configuration cannot be told. -/
  | unchecked (e : CheckFault)
  /-- A configuration has no settings. -/
  | settings (e : SettingsFault)
  deriving DecidableEq, Repr

/-- The wording of a fault. -/
def LoadFault.message : LoadFault → String
  | notFound path => s!"Config file not found: {path}"
  | invalid path => s!"Invalid YAML in {path}: " ++ Yaml.malformedText
  | notMapping typeName => s!"Config file must be a YAML mapping, got {typeName}"
  | yaml e => e.message
  | file e => e.message
  | undecodable e => e.message
  | unencodable e => e.message
  | homeless => "Could not determine home directory."
  | unchecked e => e.message
  | settings e => e.message

/-- Whether a fault is a mistake of the user in naming or writing a file. -/
def LoadFault.isMistake : LoadFault → Bool
  | notFound _ => true
  | invalid _ => true
  | notMapping _ => true
  | _ => false

/-- A step of loading. -/
abbrev Load := ExceptT LoadFault Logged

/-! ### Files -/

/-- A text in which every line ends with a line feed. -/
def normalizeBreaks : List Char → List Char
  | [] => []
  | '\r' :: '\n' :: cs => '\n' :: normalizeBreaks cs
  | '\r' :: cs => '\n' :: normalizeBreaks cs
  | c :: cs => c :: normalizeBreaks cs

/-- The entries of a document; an empty document has none. -/
def documentEntries (text : List Char) : Except LoadFault Entries := do
  let data ← (Yaml.read text).mapError .yaml
  if data.isNull then return []
  else if data.isMapping then return (← data.value.mapError .yaml).entries
  else throw (.notMapping (data.typeName data.root))

/-- The entries of a file, as they are written. -/
def fileEntries (w : World) (path : String) : Except LoadFault Entries := do
  let bytes ← (w.read path).mapError .file
  let text ← (Text.Utf8.strict bytes).mapError .undecodable
  documentEntries (normalizeBreaks text)

/-- The entries of a file, with the references in their values replaced. -/
def readEntries (w : World) (path : String) : Load Entries := do
  let es ← fileEntries w path
  ExceptT.adapt LoadFault.unencodable (Entries.expand w.environment es)

/-! ### Where files are -/

/-- The directory of the user: the one of its variable, or else the one in the list of users. A
directory that begins with a tilde counts as none. -/
def userDirectory? (w : World) : Option String := do
  let home ← (w.environment.get? "HOME").or w.files.userDirectory?
  let stripped := Text.dropLastWhile (· = '/') home.toList
  if stripped = [] then return "/"
  else if stripped.head? = some '~' then none
  else return String.ofList stripped

/-- The directory of the global file: the one of its variable, or one in the user's directory. -/
def home (w : World) : Except LoadFault Path :=
  match (w.environment.get? "LINTBRIDGE_HOME").filter fun s => !s.isEmpty with
  | some directory => .ok (Path.ofText directory)
  | none => match userDirectory? w with
    | some directory => .ok (Path.ofText directory ++ Path.ofText ".lintbridge")
    | none => .error .homeless

/-- The path of the global file. -/
def globalPath (w : World) : Except LoadFault String :=
  (home w).map fun directory => (directory ++ Path.ofText "config.yml").text

/-- The names of a project's file, in the order in which they are looked for. -/
def projectNames : List String :=
  [".lintbridge.yml", ".lintbridge.yaml", "lintbridge.yml", "lintbridge.yaml"]

/-- The first of several paths that leads to a regular file. -/
def firstFile (w : World) : List String → Except FileFault (Option String)
  | [] => .ok none
  | path :: paths =>
    match w.isFile path with
    | .error e => .error e
    | .ok true => .ok (some path)
    | .ok false => firstFile w paths

/-- The file of a project, if it has one. -/
def projectFile (w : World) (root : Path) : Except FileFault (Option String) :=
  firstFile w (projectNames.map fun name => (root ++ Path.ofText name).text)

/-- The global file, if there is one. -/
def globalFile (w : World) : Except LoadFault (Option String) := do
  let path ← globalPath w
  (firstFile w [path]).mapError .file

/-! ### Layers -/

/-- What a layer says, and where it was found. -/
structure Layer where
  entries : Entries
  source : String

/-- Whether a fault of the global file is passed over. -/
def isPassedOver : LoadFault → Bool
  | .yaml .malformed => true
  | .notMapping _ => true
  | .notFound _ => true
  | .invalid _ => true
  | .file (.refused _) => true
  | _ => false

/-- The layer of a file, with warnings about it. -/
def fileLayer (w : World) (path kind loaded : String) : Load Layer := do
  let es ← readEntries w path
  let _ ← ExceptT.mk ((·.mapError LoadFault.unchecked) <$> check path (.map es))
  Logged.note .debug .loading s!"{loaded} {path}"
  return ⟨es, kind ++ ":" ++ path⟩

/-- The layer of the global file. A fault of it is recorded, and goes on only if it is none of those
that a file may have. -/
def globalLayer (w : World) : Load (Option Layer) := do
  match ← globalFile w with
  | none => return none
  | some path =>
    let layer := fileLayer w path "global" "Loaded global config from"
    ExceptT.mk do
      match ← layer.run with
      | .ok layer => return .ok (some layer)
      | .error e =>
        if isPassedOver e then
          Logged.note .warning .loading s!"Failed to load global config: {e.message}"
          return .ok none
        else return .error e

/-- A fault of a file, told with its path if the file is no document. -/
def LoadFault.within (path : String) : LoadFault → LoadFault
  | yaml .malformed => invalid path
  | e => e

/-- The layer of a file that has to be usable. -/
def requiredLayer (w : World) (path kind : String) : Load Layer :=
  ExceptT.mk do
    return (← (fileLayer w path kind "Loaded config from").run).mapError (.within path)

/-- The layer of the file that is asked for, or else of the project's file. -/
def projectLayer (w : World) (root custom : Option Path) : Load (Option Layer) := do
  match custom with
  | some path =>
    if ← (w.contains path.text).mapError LoadFault.file then
      return some (← requiredLayer w path.text "custom")
    else throw (.notFound path.text)
  | none =>
    match root with
    | none => return none
    | some root =>
      match ← (projectFile w root).mapError LoadFault.file with
      | none => return none
      | some path => return some (← requiredLayer w path "project")

/-- The layer of the command line. One that says nothing is none. -/
def overrideLayer (overrides : Entries) : Load (Option Layer) :=
  if overrides = [] then return none
  else do
    Logged.note .debug .loading "Applied CLI overrides"
    return some ⟨overrides, "cli"⟩

/-- The entries of all layers, each laid over the ones before it. -/
def mergeLayers (layers : List Layer) : Entries :=
  layers.foldl (fun es l => Entries.over es l.entries) []

/-- The text of a list of sources. -/
def sourcesText (sources : List String) : String :=
  "[" ++ ", ".intercalate (sources.map Text.quoted) ++ "]"

/-- The layers of a configuration, the weakest first. -/
def layers (w : World) (root custom : Option Path) (overrides : Entries) : Load (List Layer) := do
  let global ← globalLayer w
  let project ← projectLayer w root custom
  let overriding ← overrideLayer overrides
  return global.toList ++ project.toList ++ overriding.toList

/-- The settings of all layers. -/
def load (w : World) (root custom : Option Path) (overrides : Entries) : Load Loaded := do
  let layers ← layers w root custom overrides
  let loaded ← (Loaded.ofEntries (mergeLayers layers)).mapError LoadFault.settings
  let sources := layers.map (·.source)
  let shown := sourcesText sources
  Logged.note .debug .loading s!"Config loaded from sources: {shown}"
  return { loaded with sources := sources }

end ProjectLint.Config
