import ProjectLint.CommandLine.Surroundings

/-!
# The program

Takes a picture of what the run looks at, carries out the run on it, and writes what it shows. The
program starts no child: the output of a linter that checks a file is read from the standard input,
and any other child counts as one that cannot be started.
-/

namespace ProjectLint.Main

open CommandLine

/-- What stands at a path. A regular file that can be read counts as a program. -/
def look (path : String) : IO (Option Node) := do
  try
    let bytes ← IO.FS.readBinFile path
    return some (.file bytes.toList true)
  catch e =>
    match e with
    | .permissionDenied .. => return some (.unreadable true)
    | .inappropriateType _ code _ => return if code = 21 then some .directory else none
    | _ => return none

/-- The world with what stands at some paths. -/
def withPaths (w : World) (paths : List String) : IO World :=
  paths.foldlM (fun w path => do
    match ← look (Surroundings.absolute w path) with
    | some node => return w.put (Surroundings.absolute w path) node
    | none => return w) w

/-- The world with the values of some variables. -/
def withVariables (w : World) (names : List String) : IO World :=
  names.foldlM (fun w name => do
    match ← IO.getEnv name with
    | some value => return w.setVariable name value
    | none => return w) w

/-- The world that a command looks at. -/
def surroundings (w : World) (command : Command) : IO World := do
  let w ← withVariables w Surroundings.commonVariables
  let places := Surroundings.configuration w command
  let w ← withPaths w places
  let w ← withVariables w (Surroundings.references w places)
  let settings := Surroundings.settings w command
  let w ← withVariables w [settings.linter.searchVariable]
  withPaths w (Surroundings.linter w command settings)

/-- All bytes of a stream; at most `fuel` reads are made. -/
def readAll (stream : IO.FS.Stream) : (fuel : Nat) → ByteArray → IO ByteArray
  | 0, bytes => return bytes
  | fuel + 1, bytes => do
    let more ← stream.read 65536
    if more.isEmpty then return bytes else readAll stream fuel (bytes ++ more)

/-- How the children of a command behave. -/
def children : Command → IO (List Execution.Behaviour)
  | .lint .. => do
    let bytes ← readAll (← IO.getStdin) 4294967296 .empty
    return [.starts {
      fate := .ends, output := bytes.toList, errors := [], status := some 0, vanishes := false
      delay := 0 }]
  | _ => return []

/-- Writes what a run shows, and gives its exit status. -/
def present (t : Transcript) : IO UInt32 := do
  (← IO.getStdout).putStr t.output
  (← IO.getStderr).putStr t.errors
  match t.exit with
  | .ok status => return status.code.toUInt32
  | .error crash =>
    (← IO.getStderr).putStrLn crash.message
    return 1

/-- The world with the usual limits for names and paths. -/
def limited (w : World) : World :=
  { w with files := { w.files with longestName? := some 255, longestPath? := some 4095 } }

/-- Carries out a run on a picture of its surroundings. -/
def start (words : List String) : IO UInt32 := do
  let w := limited (World.ofFiles (toString (← IO.currentDir)) .empty [])
  match Surroundings.command? words with
  | none => present (run w words [])
  | some command =>
    let w ← surroundings w command
    present (run w words (← children command))

end ProjectLint.Main

/-- Runs the program. -/
def main (words : List String) : IO UInt32 := ProjectLint.Main.start words
