import SuiteTree.Session
import SuiteTree.Time.Calendar

/-!
# The runner as a program

The session itself is a function. The program looks up what the function needs to know of the
machine, evaluates it, and carries out what its outcome says. The clocks are read while the session
is evaluated: whenever it asks for one more reading than there are, one is taken and the session is
evaluated again.
-/

namespace SuiteTree.Machine

/-- Fields of a line of numbers that describes this process. The name of the program stands in
parentheses and may hold blanks. -/
def processFields : IO (List String) := do
  let text ← IO.FS.readFile "/proc/self/stat"
  let fields (s : String) := (s.splitOn " ").filter (· ≠ "")
  let parts := text.splitOn ")"
  let front := ((parts.head?.getD "").splitOn "(").head?.getD ""
  pure (fields front ++ fields (parts.getLast?.getD ""))

/-- A field that holds a number. -/
def numberAt (fields : List String) (i : Nat) : Nat :=
  ((fields[i]?).bind String.toNat?).getD 0

/-- A span of clock ticks, of which there are a hundred in a second. -/
def ofTicks (ticks : Nat) : Time.Span :=
  ⟨ticks * 10000000⟩

/-- Read the clocks of the machine. -/
def readClocks : IO Time.Reading := do
  let fields ← processFields
  pure {
    real := ⟨← IO.monoNanosNow⟩
    user := ofTicks (numberAt fields 12)
    system := ofTicks (numberAt fields 13) }

/-- The environment variables. -/
def environment : IO (List (String × String)) := do
  let bytes ← IO.FS.readBinFile "/proc/self/environ"
  let text := (String.fromUTF8? bytes).getD ""
  pure ((text.splitOn "\x00").filterMap fun line =>
    match line.splitOn "=" with
    | name :: value :: more => some (name, "=".intercalate (value :: more))
    | _ => none)

/-- What stands at a location of the machine. -/
def look (location : Location) : IO (Option Entry) := do
  let root ← IO.currentDir
  let place := root / ("/" ++ "/".intercalate location)
  if ← place.isDir then pure (some .directory)
  else if ← place.pathExists then
    let text ← try IO.FS.readFile place catch _ => pure ""
    pure (some (.file text))
  else pure none

/-- Learn what stands along a path. -/
def explore (files : Files) (path : Path) : IO Files := do
  let start := if path.isAbsolute then [] else files.current
  let names := ((Path.segments path.text.toList).filter (!Path.isIdle ·)).map String.ofList
  let mut known := files
  let mut location := start
  for name in names do
    location := if name = ".." then location.dropLast else location ++ [name]
    if let some entry ← look location then known := known.put location entry
  pure known

/-- The current directory and everything above it. -/
def currentFiles : IO Files := do
  let names := ((← IO.currentDir).toString.splitOn "/").filter (· ≠ "")
  let above := (List.range names.length).map fun n => (names.take (n + 1), Entry.directory)
  pure { entries := above, current := names }

/-- The process as a session sees it. -/
def host (env : List (String × String)) : IO Host := do
  let here ← IO.currentDir
  let now ← (here / "/proc/self/stat").metadata
  let fields ← processFields
  let program := (← IO.appPath).parent.getD here
  pure {
    programDir := ⟨program.toString⟩
    temporaryDir := ⟨(env.lookup "TMPDIR").getD "/tmp"⟩
    stamp := Time.stamp now.modified.sec.toNat
    processId := numberAt fields 0 }

/-- Evaluate a session with as many readings of the clocks as it asks for. -/
partial def evaluate (start : Start) : IO Outcome := do
  let outcome := Session.run start
  let readings := start.supply.readings
  if outcome.readingsTaken ≤ readings.length then pure outcome
  else
    let next ← readClocks
    evaluate { start with supply := { start.supply with readings := readings ++ [next] } }

/-- Carry out the changes that a session made to the files, directories before what is in them. -/
def store (before after : Files) : IO Unit := do
  let changed := after.entries.filter fun (location, entry) => before.at? location ≠ some entry
  let root ← IO.currentDir
  for (location, entry) in changed.mergeSort fun a b => decide (a.1.length ≤ b.1.length) do
    let place := root / ("/" ++ "/".intercalate location)
    match entry with
    | .directory => IO.FS.createDir place
    | .file text => IO.FS.writeFile place text

end SuiteTree.Machine

open SuiteTree SuiteTree.Machine in
/-- Run a session of the runner. -/
def main (arguments : List String) : IO UInt32 := do
  let env ← environment
  let start : Start := { arguments, env, files := ← currentFiles, host := ← host env }
  let known ← (Session.places start).foldlM explore start.files
  let start := { start with files := known }
  let known ← (Session.places start).foldlM explore start.files
  let outcome ← evaluate { start with files := known }
  let output ← IO.getStdout
  output.write ⟨outcome.output.toArray⟩
  output.flush
  IO.eprint outcome.errors
  store known outcome.files
  match outcome.ending with
  | .exited status => pure status.toUInt32
  | .aborted => pure 134
