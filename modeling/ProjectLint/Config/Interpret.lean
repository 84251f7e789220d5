import ProjectLint.Config.Value
import ProjectLint.Settings

/-!
# Settings from a configuration

A setting takes its value from the configuration if the value is usable for it, and its default
otherwise. Texts must not be empty, lists must hold texts alone, and the limit of a run must be a
number above zero. The texts keep all their letters; a project that is linted with them knows texts
of characters only.

## Main definitions

* `Config.Loaded`: the settings of a configuration.
* `Config.text`, `Config.texts`, `Config.timeout`, `Config.switch`: the conversions.
* `Config.Loaded.ofEntries`: the settings of a configuration.
* `Config.Loaded.settings`: the same with texts of characters.
-/

namespace ProjectLint.Config

open Text

/-- Why a configuration has no settings. -/
inductive SettingsFault
  /-- The limit of a run is an integer beyond the range of a double. -/
  | timeoutTooLarge
  deriving DecidableEq, Repr

/-- The wording of a fault. -/
def SettingsFault.message : SettingsFault → String
  | timeoutTooLarge => "int too large to convert to float"

/-- A text that is not empty, or the default. -/
def text (default : List Letter) (v : Option Value) : List Letter :=
  match v.bind Value.letters? with
  | some (l :: ls) => l :: ls
  | _ => default

/-- The texts of a list that holds nothing else. -/
def asTexts? : List Value → Option (List (List Letter))
  | [] => some []
  | v :: vs => do return (← v.letters?) :: (← asTexts? vs)

/-- A list of texts, or the default. -/
def texts (default : List (List Letter)) : Option Value → List (List Letter)
  | some (.list vs) => (asTexts? vs).getD default
  | _ => default

/-- A number of seconds above zero, or none. -/
def timeout : Option Value → Except SettingsFault (Option Binary64)
  | some (.int n) =>
    if 0 < n then
      match Binary64.ofInt? n with
      | some x => .ok (some x)
      | none => .error .timeoutTooLarge
    else .ok none
  | some (.float x) => .ok (if x.isPositive then some x else none)
  | _ => .ok none

/-- A truth value, or `false`. -/
def switch : Option Value → Bool
  | some (.bool b) => b
  | _ => false

/-- The entries of a section; a section that is no mapping has none. -/
def sectionEntries (es : Entries) (name : String) : Entries :=
  match es.field? name with
  | some v => v.entries
  | none => []

/-- The settings of a configuration, and where they were found. -/
structure Loaded where
  name : List Letter := Letter.ofText ({} : Linter).name
  binDir : List Letter := Letter.ofText ({} : Linter).binDir
  modulesDir : List Letter := Letter.ofText ({} : Linter).modulesDir
  searchVariable : List Letter := Letter.ofText ({} : Linter).searchVariable
  lintArguments : List (List Letter) := ({} : Linter).lintArguments.map Letter.ofText
  fixArguments : List (List Letter) := ({} : Linter).fixArguments.map Letter.ofText
  timeout : Option Binary64 := none
  runtime : List Letter := Letter.ofText ({} : Settings).runtime
  surfaceErrors : Bool := false
  /-- Where the settings were found, the weakest source first. -/
  sources : List String := []
  deriving DecidableEq, Repr

namespace Loaded

/-- The settings of a configuration. -/
def ofEntries (es : Entries) : Except SettingsFault Loaded := do
  let usual : Loaded := {}
  let linter := sectionEntries es "linter"
  let limit ← Config.timeout (linter.field? "timeout")
  return {
    name := text usual.name (linter.field? "name")
    binDir := text usual.binDir (linter.field? "bin_dir")
    modulesDir := text usual.modulesDir (linter.field? "modules_dir")
    searchVariable := text usual.searchVariable (linter.field? "module_search_var")
    lintArguments := texts usual.lintArguments (linter.field? "lint_args")
    fixArguments := texts usual.fixArguments (linter.field? "fix_args")
    timeout := limit
    runtime := text usual.runtime ((sectionEntries es "runtime").field? "path")
    surfaceErrors := switch (es.field? "surface_errors") }

/-- The settings with texts of characters. A half of a surrogate pair is U+FFFD in them. -/
def settings (c : Loaded) : Settings where
  linter := {
    name := Letter.toText c.name
    binDir := Letter.toText c.binDir
    modulesDir := Letter.toText c.modulesDir
    searchVariable := Letter.toText c.searchVariable
    lintArguments := c.lintArguments.map Letter.toText
    fixArguments := c.fixArguments.map Letter.toText
    timeout := c.timeout }
  runtime := Letter.toText c.runtime
  surfaceErrors := c.surfaceErrors
  sources := c.sources

end Loaded

end ProjectLint.Config
