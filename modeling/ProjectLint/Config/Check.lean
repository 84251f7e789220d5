import ProjectLint.Config.Value
import ProjectLint.Log.Basic
import ProjectLint.Text.Similarity

/-!
# Checking a configuration

A configuration with mistakes is still used. What is wrong with it is told in warnings: a key that
is not known, with the known key that is most like it, and a value of the wrong type.

## Main definitions

* `Config.Warning`: one warning.
* `Config.Remark`: a warning, or a mistake that cannot be told.
* `Config.warnings`: all warnings about a configuration.
* `Config.check`: the warnings, each of which is also recorded.

## Main results

* `Config.told_of_settle`: where all mistakes can be told, all of them are recorded.
-/

namespace ProjectLint.Config

open Log

/-- A warning about a configuration. -/
structure Warning where
  message : String
  /-- Where the configuration was found. -/
  source : String
  /-- The key that the warning is about. -/
  key : Option String
  /-- The key that was probably meant. -/
  suggestion : Option String
  deriving DecidableEq, Repr

/-- Why a mistake cannot be told. -/
inductive CheckFault
  /-- A key is a number with too many digits to be shown. -/
  | unshowableKey
  deriving DecidableEq, Repr

/-- The wording of a fault. -/
def CheckFault.message : CheckFault → String
  | unshowableKey => Text.Numeral.unwritableText

/-- A warning, or a mistake that cannot be told. -/
abbrev Remark := Except CheckFault Warning

/-- The keys of the outermost mapping. -/
def topKeys : List String := ["linter", "runtime", "surface_errors"]

/-- The keys of the section about the linter. -/
def linterKeys : List String :=
  ["name", "bin_dir", "modules_dir", "module_search_var", "lint_args", "fix_args", "timeout"]

/-- The keys of the section about the runtime. -/
def runtimeKeys : List String := ["path"]

/-- The keys of the linter's section whose values are texts, in the order of the warnings. -/
def linterTextKeys : List String := ["bin_dir", "module_search_var", "modules_dir", "name"]

/-- The keys of the linter's section whose values are lists of texts, in the order of the
warnings. -/
def linterListKeys : List String := ["fix_args", "lint_args"]

/-- The key of a section that is most like a wrong one. -/
def suggest (key : String) (known : List String) : Option String :=
  Text.Similarity.closest? key known

/-- Whether a key is one of several names. -/
def isKnown (known : List String) : Value → Bool
  | .str s => known.contains s
  | _ => false

/-- A text. -/
def isText (v : Value) : Bool := v.letters?.isSome

/-- A list that holds texts alone. -/
def isTextList : Value → Bool
  | .list vs => vs.all isText
  | _ => false

/-- A number that is not known to be zero or less. -/
def isLimit : Value → Bool
  | .int n => 0 < n
  | .float .nan => true
  | .float x => x.isPositive
  | _ => false

/-- A truth value. -/
def isSwitch : Value → Bool
  | .bool _ => true
  | _ => false

/-- A value that is given and not null. -/
def given? (es : Entries) (name : String) : Option Value :=
  (es.field? name).filter fun
    | .null => false
    | _ => true

/-- A warning about the value of a key, if the value is given and is not as expected. -/
def expect (source : String) (es : Entries) (name key : String) (isUsable : Value → Bool)
    (expected : String) : List Remark :=
  match given? es name with
  | none => []
  | some v =>
    if isUsable v then []
    else [.ok { message := s!"'{key}' must be {expected}", source := source, key := some key,
                suggestion := none }]

/-- The remark about an unknown key. -/
def unknownKey (source : String) (known : List String) (path kind : String) (key : Value) :
    Remark :=
  if key.isShowable then
    let shown := path ++ key.shown
    .ok { message := s!"Unknown {kind} '{shown}'", source := source, key := some shown,
          suggestion := suggest key.shown known }
  else .error .unshowableKey

/-- The remarks about the unknown keys of a section. The keys of the outermost mapping are told by
another name than those of a section inside it. -/
def unknownKeys (source : String) (es : Entries) (known : List String) (path kind : String) :
    List Remark :=
  (es.filter fun e => !isKnown known e.1).map fun e => unknownKey source known path kind e.1

/-- The remarks about a section: it has to be a mapping, and its entries are looked at. -/
def inSection (source : String) (es : Entries) (name : String) (inside : Entries → List Remark) :
    List Remark :=
  match given? es name with
  | none => []
  | some (.map entries) => inside entries
  | some v =>
    [.ok { message := s!"'{name}' must be a mapping, got {v.typeName}", source := source,
           key := some name, suggestion := none }]

/-- The remarks about the section of the linter. -/
def linterRemarks (source : String) (es : Entries) : List Remark :=
  unknownKeys source es linterKeys "linter." "key" ++
    linterTextKeys.flatMap (fun name =>
      expect source es name ("linter." ++ name) isText "a string") ++
    linterListKeys.flatMap (fun name =>
      expect source es name ("linter." ++ name) isTextList "a list of strings") ++
    expect source es "timeout" "linter.timeout" isLimit "a positive number of seconds"

/-- The remarks about the section of the runtime. -/
def runtimeRemarks (source : String) (es : Entries) : List Remark :=
  unknownKeys source es runtimeKeys "runtime." "key" ++
    expect source es "path" "runtime.path" isText "a string"

/-- The remarks about a configuration. -/
def remarks (source : String) : Value → List Remark
  | .map es =>
    unknownKeys source es topKeys "" "top-level key" ++
      inSection source es "linter" (linterRemarks source) ++
      inSection source es "runtime" (runtimeRemarks source) ++
      expect source es "surface_errors" "surface_errors" isSwitch "a boolean"
  | v =>
    [.ok { message := s!"Config must be a mapping, got {v.typeName}", source := source,
           key := none, suggestion := none }]

/-- The warnings among remarks, if all of them can be told. -/
def settle : List Remark → Except CheckFault (List Warning)
  | [] => .ok []
  | .ok w :: rest => (settle rest).map (w :: ·)
  | .error e :: _ => .error e

/-- The warnings in front of the first mistake that cannot be told. -/
def told : List Remark → List Warning
  | .ok w :: rest => w :: told rest
  | _ => []

/-- Where all mistakes can be told, all of them are. -/
theorem told_of_settle : ∀ {rs : List Remark} {ws : List Warning},
    settle rs = .ok ws → told rs = ws
  | [], ws, h => by simpa [settle, told, eq_comm] using h
  | .ok w :: rest, ws, h => by
    cases hr : settle rest with
    | error e => simp [settle, hr, Except.map] at h
    | ok vs =>
      have ih := told_of_settle hr
      simp only [settle, hr, Except.map, Except.ok.injEq] at h
      rw [told, ih, h]
  | .error e :: _, ws, h => by simp [settle] at h

/-- The warnings about a configuration. -/
def warnings (source : String) (v : Value) : Except CheckFault (List Warning) :=
  settle (remarks source v)

/-- The wording of a warning in a record. -/
def Warning.line (w : Warning) : String :=
  w.message ++ " in " ++ w.source ++
    (match w.suggestion with
      | none => ""
      | some s => s!" (did you mean '{s}'?)")

/-- The record of a warning. -/
def Warning.record (w : Warning) : Record := ⟨.warning, .checking, w.line, none⟩

/-- The warnings about a configuration, each of which is also recorded. -/
def check (source : String) (v : Value) : Logged (Except CheckFault (List Warning)) :=
  ⟨warnings source v, (told (remarks source v)).map Warning.record⟩

@[simp] theorem value_check (source : String) (v : Value) :
    (check source v).value = warnings source v := rfl

end ProjectLint.Config
