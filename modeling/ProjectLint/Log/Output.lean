import ProjectLint.Log.Basic

/-!
# Where records are written

Of all records the ones with at least a chosen level are written, each as a line. Which level is
chosen follows from three switches. At most one stream receives the lines; choosing another one
replaces it. Only records of this program are written: a source is known by its name, which is
the common name itself or begins with it and a dot.

## Main definitions

* `Log.Verbosity`: the three switches, and `Log.Verbosity.threshold`, the level they choose.
* `Log.line`: the line of a record.
* `Log.Output`: the chosen level and stream.
-/

namespace ProjectLint.Log

/-- The common name of all sources. -/
def commonName : String := "lintbridge"

/-- The switches that choose how much is written. -/
structure Verbosity where
  quiet : Bool
  debug : Bool
  verbose : Bool
  deriving DecidableEq, Repr

/-- The least level that is written: the quietest of the given switches wins over `debug`, and
`debug` over `verbose`. -/
def Verbosity.threshold (v : Verbosity) : Level :=
  if v.quiet then .error else if v.debug then .debug else if v.verbose then .info else .warning

/-- The line of a record. -/
def line (level : Level) (source message : String) : String :=
  level.name ++ " " ++ source ++ ": " ++ message ++ "\n"

/-- The line of a record of this program. -/
def Record.line (r : Record) : String := Log.line r.level r.source.name r.message

/-- The lines of the records that reach a threshold. -/
def written (threshold : Level) (log : List Record) : String :=
  String.join ((log.filter fun r => threshold.rank ≤ r.level.rank).map Record.line)

/-- A source of this program: the common name, or a name below it. -/
def isOwn (source : String) : Bool :=
  source = commonName || (commonName ++ ".").toList.isPrefixOf source.toList

/-- Where records go. Before a level is chosen the one of the surrounding program holds. -/
structure Output where
  /-- The chosen level. -/
  threshold : Option Level
  /-- The stream that receives the lines. -/
  stream : Option Nat
  deriving DecidableEq, Repr

namespace Output

/-- Nothing is chosen. -/
def initial : Output := ⟨none, none⟩

/-- Chooses a level and a stream; the stream chosen before receives no more lines. -/
def configure (v : Verbosity) (stream : Nat) : Output := ⟨some v.threshold, some stream⟩

/-- The rank of the chosen level, zero before one is chosen. -/
def rank (o : Output) : Nat := (o.threshold.map Level.rank).getD 0

/-- The level that is in force: a warning where none is chosen. -/
def effective (o : Output) : Level := o.threshold.getD .warning

/-- The stream and the text that a record is written to it with, if it is written at all. -/
def write (o : Output) (level : Level) (source message : String) : Option (Nat × String) :=
  if isOwn source ∧ o.effective.rank ≤ level.rank then
    o.stream.map fun k => (k, line level source message)
  else none

end Output

end ProjectLint.Log
