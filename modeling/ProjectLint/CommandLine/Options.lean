import ProjectLint.Text.Digit
import ProjectLint.Text.Quoted

/-!
# Options and arguments

A command line is a list of words. A word that begins with a hyphen is an option, unless it is a
number, holds a space or follows the separator `--`. An option is a flag or takes a value, which is
the next word or follows an equals sign. Long options may be shortened as long as they can be told
apart, and flags of one letter may be written together. All other words are arguments.

## Main definitions

* `CommandLine.Switch`: one option of a grammar.
* `CommandLine.Grammar`: the options of a command, and what arguments it takes.
* `CommandLine.Words`: what was given on a command line.
* `CommandLine.Grammar.read`: reads a command line.
-/

namespace ProjectLint.CommandLine

open Text

/-- What an option is for. -/
inductive Effect
  /-- It is given or not. -/
  | flag
  /-- It has a value, which is one of several texts if there are any. -/
  | value (choices : List String)
  /-- It asks for the help text. -/
  | help
  deriving DecidableEq, Repr

/-- One option of a grammar. -/
structure Switch where
  spellings : List String
  field : String
  effect : Effect
  deriving DecidableEq, Repr

/-- The arguments that a command takes. -/
inductive Shape
  /-- None. -/
  | nothing
  /-- A single one. -/
  | single (field : String)
  /-- The name of a command and everything after it. -/
  | command
  deriving DecidableEq, Repr

/-- The options of a command, and what arguments it takes. -/
structure Grammar where
  /-- The name under which errors are reported. -/
  program : String
  options : List Switch
  shape : Shape
  help : String

/-- Why reading a command line stops. -/
inductive Stop
  /-- The help text is asked for. -/
  | help (text : String)
  /-- The command line is wrong. -/
  | usage (program message : String)
  deriving DecidableEq, Repr

/-- What an option is given. -/
inductive Given
  /-- A text. -/
  | text (s : String)
  /-- Nothing: the separator of options and arguments stands in the place of a value. -/
  | nothing
  deriving DecidableEq, Repr

namespace Given

/-- What a word stands for as the value of an option. -/
def ofWord (word : String) : Given := if word = "--" then nothing else text word

/-- The text that is given, if there is one. -/
def text? : Given → Option String
  | text s => some s
  | nothing => none

@[simp] theorem text?_text (s : String) : (text s).text? = some s := rfl

end Given

/-- What was given on a command line. -/
structure Words where
  flags : List String
  /-- The values of options, the last one first. -/
  values : List (String × Given)
  /-- The arguments that the command takes. -/
  arguments : List String
  /-- The words that have no meaning. -/
  extras : List String
  deriving DecidableEq, Repr

namespace Words

/-- Nothing. -/
def empty : Words := ⟨[], [], [], []⟩

/-- Whether a flag was given. -/
def has (w : Words) (field : String) : Bool := w.flags.contains field

/-- What was given last for an option. -/
def value? (w : Words) (field : String) : Option Given := w.values.lookup field

end Words

/-! ### Words -/

/-- An option as it is written in a word: the option, the spelling that is meant, and what follows
it in the same word, without an equals sign in between. -/
structure Match where
  switch : Switch
  spelling : String
  attached : Option (List Char)
  deriving DecidableEq, Repr

/-- What a word is. -/
inductive Mark
  /-- An argument. -/
  | argument
  /-- The separator after which all words are arguments. -/
  | separator
  /-- An option, which may be unknown. -/
  | option (found : Option Match)
  deriving DecidableEq, Repr

/-- A negative number: a hyphen and digits, with a point among them or not. -/
def isNegativeNumber (word : List Char) : Bool :=
  let isDigit := fun c => (decimalDigit? c).isSome
  let cs := if word.getLast? = some '\n' then word.dropLast else word
  match cs with
  | '-' :: ds =>
    match ds.dropWhile isDigit with
    | [] => ds ≠ []
    | '.' :: part => part ≠ [] && part.all isDigit
    | _ => false
  | _ => false

/-- A word up to its first equals sign, and what follows it. -/
def splitAtEquals (word : List Char) : Option (List Char × List Char) :=
  if '=' ∈ word then
    some (word.takeWhile (· ≠ '='), (word.dropWhile (· ≠ '=')).drop 1)
  else none

namespace Grammar

/-- All options with their spellings, in order. -/
def spelled (g : Grammar) : List (String × Switch) :=
  g.options.flatMap fun o => o.spellings.map fun s => (s, o)

/-- The options that a long word can be short for. -/
def longMatches (g : Grammar) (word : List Char) : List Match :=
  let (start, attached) : List Char × Option (List Char) := match splitAtEquals word with
    | some (start, rest) => (start, some rest)
    | none => (word, none)
  (g.spelled.filter fun so => start.isPrefixOf so.1.toList).map fun so => ⟨so.2, so.1, attached⟩

/-- The options that a word with a single hyphen can stand for: the one of its letter, with what
follows it. -/
def shortMatches (g : Grammar) (word : List Char) : List Match :=
  g.spelled.filterMap fun so =>
    if so.1.toList = word.take 2 then some ⟨so.2, so.1, some (word.drop 2)⟩
    else if word.isPrefixOf so.1.toList then some ⟨so.2, so.1, none⟩
    else none

/-- The options that a word can stand for. -/
def candidates (g : Grammar) (word : List Char) : List Match :=
  match word with
  | '-' :: '-' :: _ => g.longMatches word
  | _ => g.shortMatches word

/-- The option that is written out in a word, with a value attached or not. -/
def exactMatch? (g : Grammar) (word : String) : Option Match :=
  match g.spelled.lookup word with
  | some o => some ⟨o, word, none⟩
  | none =>
    if word.length = 1 then none
    else do
      let (start, rest) ← splitAtEquals word.toList
      let o ← g.spelled.lookup (String.ofList start)
      some ⟨o, String.ofList start, some rest⟩

/-- What a word is that no separator precedes. -/
def mark (g : Grammar) (word : String) : Except Stop Mark :=
  let cs := word.toList
  if cs.head? ≠ some '-' then .ok .argument
  else match g.exactMatch? word with
    | some m => .ok (.option (some m))
    | none =>
      if cs.length = 1 then .ok .argument
      else match g.candidates cs with
        | [m] => .ok (.option (some m))
        | [] =>
          if isNegativeNumber cs || cs.contains ' ' then .ok .argument else .ok (.option none)
        | ms =>
          let names := ", ".intercalate (ms.map (·.spelling))
          .error (.usage g.program s!"ambiguous option: {word} could match {names}")

/-- What the words of a command line are. -/
def marks (g : Grammar) : List String → Except Stop (List (String × Mark))
  | [] => .ok []
  | word :: words => do
    if word = "--" then return (word, .separator) :: words.map fun w => (w, .argument)
    else
      let m ← g.mark word
      return (word, m) :: (← g.marks words)

end Grammar

/-! ### Options -/

/-- The name of an option in an error. -/
def Switch.display (o : Switch) : String := "/".intercalate o.spellings

/-- Whether an option takes a value. -/
def Switch.hasValue (o : Switch) : Bool :=
  match o.effect with
  | .value _ => true
  | _ => false

/-- Whether an option is written with a name, which follows two hyphens, and not with a letter. -/
def Match.isNamed (m : Match) : Bool := (m.spelling.toList.drop 1).head? = some '-'

namespace Grammar

/-- An error about an option. -/
def wrong {α : Type} (g : Grammar) (name message : String) : Except Stop α :=
  .error (.usage g.program s!"argument {name}: {message}")

/-- An error about what follows an option that takes no value in the same word. -/
def ignored {α : Type} (g : Grammar) (o : Switch) (attached : List Char) : Except Stop α :=
  g.wrong o.display ("ignored explicit argument " ++ quoted (String.ofList attached))

/-- The flags of one letter that are written together after the option `o` in its word, and the last
option of the word with what follows it. Every letter but those of a value has to be an option. -/
def unfold (g : Grammar) (o : Switch) :
    (letters : List Char) → Except Stop (List Switch × Switch × Option (List Char))
  | [] => .ok ([], o, none)
  | letter :: letters =>
    if o.hasValue then .ok ([], o, some (letter :: letters))
    else match g.spelled.lookup (String.ofList ['-', letter]) with
      | none => g.ignored o (letter :: letters)
      | some next => do
        let (flags, last) ← g.unfold next letters
        return (o :: flags, last)

/-- The options of a word. What follows an option is its value if it takes one; after a single
letter it is more letters, and after a name it is refused. -/
def optionsOf (g : Grammar) (m : Match) :
    Except Stop (List Switch × Switch × Option (List Char)) :=
  match m.attached with
  | none => .ok ([], m.switch, none)
  | some attached =>
    if m.switch.hasValue then .ok ([], m.switch, some attached)
    else if attached = [] ∨ m.isNamed then g.ignored m.switch attached
    else g.unfold m.switch attached

/-- A choice that is not among those that an option or a command has. -/
def invalidChoice (choice : String) (choices : List String) : String :=
  let shown := ", ".intercalate (choices.map quoted)
  s!"invalid choice: {quoted choice} (choose from {shown})"

/-- Whether what is given is one of several choices. Nothing is never refused. -/
def isChoice (choices : List String) : Given → Bool
  | .text s => choices.contains s
  | .nothing => true

/-- What an option adds to the words. -/
def apply (g : Grammar) (w : Words) (o : Switch) (value : Option String) : Except Stop Words :=
  match o.effect, value with
  | .flag, _ => .ok { w with flags := o.field :: w.flags }
  | .help, _ => .error (.help g.help)
  | .value _, none => g.wrong o.display "expected one argument"
  | .value choices, some v =>
    if choices = [] ∨ isChoice choices (.ofWord v) then
      .ok { w with values := (o.field, .ofWord v) :: w.values }
    else g.wrong o.display (invalidChoice v choices)

/-- What several flags add to the words. -/
def applyAll (g : Grammar) (w : Words) : List Switch → Except Stop Words
  | [] => .ok w
  | o :: os => do g.applyAll (← g.apply w o none) os

/-- The value of the last option of a word, which may be the next word, and the words after it. -/
def lastValue (g : Grammar) (o : Switch) (attached : Option (List Char))
    (rest : List (String × Mark)) : Except Stop (Option String × List (String × Mark)) :=
  if o.hasValue then
    match attached, rest with
    | some text, _ => .ok (some (String.ofList text), rest)
    | none, (v, .argument) :: rest => .ok (some v, rest)
    | none, _ => g.wrong o.display "expected one argument"
  else .ok (none, rest)

/-- Reads a word with options. All that is wrong with the word is an error before any option of it
has an effect. -/
def readOption (g : Grammar) (w : Words) (m : Match) (rest : List (String × Mark)) :
    Except Stop (Words × List (String × Mark)) := do
  let (flags, last, attached) ← g.optionsOf m
  let (value, rest) ← g.lastValue last attached rest
  return (← g.apply (← g.applyAll w flags) last value, rest)

/-! ### Arguments -/

/-- Whether a marked word is the separator. -/
def isSeparator (word : String × Mark) : Bool := word.2 = .separator

/-- The arguments that a command takes at the front of the words, and the words after them, if there
are any that it still takes. -/
def takeArguments (g : Grammar) (w : Words) (words : List (String × Mark)) :
    Option (List String × List (String × Mark)) :=
  if w.arguments ≠ [] then none
  else match g.shape, words.dropWhile isSeparator with
    | .single _, (v, .argument) :: rest => some ([v], rest.dropWhile isSeparator)
    | .command, (_, .argument) :: _ => some (words.map (·.1), [])
    | _, _ => none

/-- Whether there is an option among the words. -/
def hasOption (words : List (String × Mark)) : Bool :=
  words.any fun w => match w.2 with
    | .option _ => true
    | _ => false

/-- Whether a marked word is no option. -/
def isPlain (word : String × Mark) : Bool :=
  match word.2 with
  | .option _ => false
  | _ => true

/-- Reads the words after the last option. -/
def readLast (g : Grammar) (w : Words) (words : List (String × Mark)) : Words :=
  match g.takeArguments w words with
  | some (arguments, rest) =>
    { w with arguments := arguments, extras := w.extras ++ rest.map (·.1) }
  | none => { w with extras := w.extras ++ words.map (·.1) }

/-- Reads words up to the last option, of which at most `fuel` are left: arguments before an option
are taken as soon as they can be. -/
def readWords (g : Grammar) :
    (fuel : Nat) → Words → List (String × Mark) → Except Stop Words
  | 0, w, words => .ok (g.readLast w words)
  | fuel + 1, w, words =>
    if !hasOption words then .ok (g.readLast w words)
    else match words with
      | (word, .option found) :: rest =>
        match found with
        | none => g.readWords fuel { w with extras := w.extras ++ [word] } rest
        | some m => do
          let (w, rest) ← g.readOption w m rest
          g.readWords fuel w rest
      | words =>
        match g.takeArguments w words with
        | some (arguments, rest) => g.readWords fuel { w with arguments := arguments } rest
        | none =>
          g.readWords fuel { w with extras := w.extras ++ (words.takeWhile isPlain).map (·.1) }
            (words.dropWhile isPlain)

/-- Reads a command line. An argument that the command needs has to be there. -/
def read (g : Grammar) (words : List String) : Except Stop Words := do
  let w ← g.readWords (words.length + 1) .empty (← g.marks words)
  match g.shape with
  | .single field =>
    if w.arguments = [] then
      .error (.usage g.program s!"the following arguments are required: {field}")
    else return w
  | _ => return w

end Grammar

end ProjectLint.CommandLine
