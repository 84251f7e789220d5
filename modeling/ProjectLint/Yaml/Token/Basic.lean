import ProjectLint.Yaml.Cursor

/-!
# Tokens

A document is a sequence of tokens. Where a collection is laid out by indentation, tokens that take
up no characters mark its beginning and its end.

## Main definitions

* `Yaml.Directive`: what is said about a document before it begins.
* `Yaml.Token`: one token.
-/

namespace ProjectLint.Yaml

/-- What is said about a document before it begins. -/
inductive Directive
  /-- The version of the format. -/
  | version (major minor : Nat)
  /-- What a tag handle stands for. -/
  | handle (name : List Char) (expansion : List Char)
  /-- Anything else, which is ignored. -/
  | other
  deriving DecidableEq, Repr

/-- One token of a document. -/
inductive Token
  | directive (d : Directive)
  | documentStart
  | documentEnd
  | blockSequenceStart
  | blockMappingStart
  | blockEnd
  | flowSequenceStart
  | flowSequenceEnd
  | flowMappingStart
  | flowMappingEnd
  | blockEntry
  | flowEntry
  | key
  | value
  | alias (name : List Char)
  | anchor (name : List Char)
  /-- A tag: a handle if it is written with one, and what follows the handle. -/
  | tag (handle : Option (List Char)) (suffix : List Char)
  /-- A scalar; it is plain when it is written without quotes and not as a block. -/
  | scalar (text : List Text.Letter) (plain : Bool)
  /-- The end of the text. -/
  | streamEnd
  deriving DecidableEq, Repr

end ProjectLint.Yaml
