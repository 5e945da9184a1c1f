import SuiteTree.Path
import SuiteTree.Error

/-!
# Directories and files

A tree of directories and text files, with the current directory of the process. Locations are the
names on the way from the root; a path is resolved to a location one name at a time, and every name
but the last must lead to a directory.
-/

namespace SuiteTree

/-- What stands at a location. -/
inductive Entry
  | directory
  | file (text : String)
  deriving Repr, DecidableEq, Inhabited

/-- The names on the way from the root to a directory or file. -/
abbrev Location := List String

/-- A tree of directories and files. The root is a directory and has no entry. -/
structure Files where
  entries : List (Location × Entry) := []
  /-- The current directory. -/
  current : Location := []
  deriving Repr, DecidableEq, Inhabited

namespace Files

/-- What stands at a location, if anything does. -/
def at? (files : Files) (location : Location) : Option Entry :=
  if location = [] then some .directory else files.entries.lookup location

/-- Put an entry at a location, in place of what stands there. -/
def put (files : Files) (location : Location) (entry : Entry) : Files :=
  { files with entries := (location, entry) :: files.entries.filter (·.1 ≠ location) }

/-- A directory stands at the location. -/
def requireDirectory (files : Files) (location : Location) : Except OsError Unit :=
  match files.at? location with
  | some .directory => .ok ()
  | some (.file _) => .error .notADirectory
  | none => .error .notFound

/-- Take one step from a directory. -/
def step (files : Files) (location : Location) (name : List Char) : Except OsError Location := do
  files.requireDirectory location
  if name = ['.'] then pure location
  else if name = ['.', '.'] then pure location.dropLast
  else if 255 < (String.ofList name).utf8ByteSize then .error .nameTooLong
  else pure (location ++ [String.ofList name])

/-- Where a path leads. -/
structure Target where
  location : Location
  /-- The path ends in a name, so that something could be created under it. -/
  named : Bool
  /-- The path ends in a separator, so that only a directory will do. -/
  closed : Bool
  deriving Repr, DecidableEq

/-- Resolve a path. What it leads to need not exist, but every directory on the way must. -/
def resolve (files : Files) (path : Path) : Except OsError Target := do
  let cs := path.text.toList
  if '\x00' ∈ cs then .error .nulInPath
  else if cs = [] then .error .notFound
  else if 4096 ≤ path.text.utf8ByteSize then .error .nameTooLong
  else
    let start := if path.isAbsolute then [] else files.current
    let names := (Path.segments cs).filter (· ≠ [])
    let location ← names.foldlM files.step start
    let last := names.getLast?
    pure {
      location
      named := last.isSome && last != some ['.'] && last != some ['.', '.']
      closed := cs.getLast? == some '/' }

/-- What stands at the end of a path. -/
def entry (files : Files) (path : Path) : Except OsError Entry := do
  let target ← files.resolve path
  match files.at? target.location with
  | none => .error .notFound
  | some .directory => pure .directory
  | some (.file text) => if target.closed then .error .notADirectory else pure (.file text)

/-- The path leads to a directory. -/
def isDirectory (files : Files) (path : Path) : Bool :=
  match files.entry path with
  | .ok .directory => true
  | _ => false

/-- The path leads to a file. -/
def isFile (files : Files) (path : Path) : Bool :=
  match files.entry path with
  | .ok (.file _) => true
  | _ => false

/-- The text of the file at the end of a path. -/
def readText (files : Files) (path : Path) : Except OsError String := do
  match ← files.entry path with
  | .file text => pure text
  | .directory => .error .isADirectory

/-- The names of the entries of a directory, in the order of their code points. -/
def list (files : Files) (path : Path) : Except OsError (List String) := do
  match ← files.entry path with
  | .file _ => .error .notADirectory
  | .directory =>
    let target ← files.resolve path
    let names := files.entries.filterMap fun (location, _) =>
      if location.dropLast = target.location then location.getLast? else none
    pure (names.mergeSort fun a b => decide (a ≤ b))

/-- Make one directory. Its parent must exist, and nothing may stand in its place. -/
def makeDirectory (files : Files) (path : Path) : Except OsError Files := do
  let target ← files.resolve path
  match files.at? target.location with
  | some _ => .error .alreadyExists
  | none => if target.named then pure (files.put target.location .directory) else .error .notFound

/-- Make a directory after the missing ones above it. The list holds the directory and its parents,
nearest first. What has been made stays, also when a later step fails. -/
def makeChain (files : Files) : List Path → Except OsError Unit × Files
  | [] => (.error (.other "failed to create whole tree"), files)
  | path :: above =>
    if path.text = "" then (.ok (), files)
    else
      match files.makeDirectory path with
      | .ok made => (.ok (), made)
      | .error .notFound =>
        match makeChain files above with
        | (.error cause, made) => (.error cause, made)
        | (.ok (), made) =>
          match made.makeDirectory path with
          | .ok full => (.ok (), full)
          | .error cause => (if made.isDirectory path then .ok () else .error cause, made)
      | .error cause => (if files.isDirectory path then .ok () else .error cause, files)

/-- Make a directory and every missing directory above it. -/
def makeDirectories (files : Files) (path : Path) : Except OsError Unit × Files :=
  files.makeChain path.ancestors

/-- Open a file for writing and create it if it is missing. Its text is kept when it is opened for
appending, and dropped otherwise. -/
def openForWriting (files : Files) (path : Path) (append : Bool) :
    Except OsError (Location × Files) := do
  let target ← files.resolve path
  match files.at? target.location with
  | some .directory => .error .isADirectory
  | some (.file text) =>
    if target.closed then .error .notADirectory
    else if append then pure (target.location, files.put target.location (.file text))
    else pure (target.location, files.put target.location (.file ""))
  | none =>
    if target.closed then .error .isADirectory
    else if target.named then pure (target.location, files.put target.location (.file ""))
    else .error .notFound

/-- Write text at the end of the file at a location. -/
def extend (files : Files) (location : Location) (text : String) : Files :=
  match files.at? location with
  | some (.file before) => files.put location (.file (before ++ text))
  | _ => files

/-- Write text over the beginning of the file at a location. What reaches beyond the text stays. -/
def overwrite (files : Files) (location : Location) (text : String) : Files :=
  match files.at? location with
  | some (.file before) =>
    let rest := before.toUTF8.extract text.utf8ByteSize before.utf8ByteSize
    files.put location (.file (text ++ (String.fromUTF8? rest).getD ""))
  | _ => files

/-- Replace the text of a file, or create it. -/
def writeText (files : Files) (path : Path) (text : String) : Except OsError Files := do
  let (location, opened) ← files.openForWriting path false
  pure (opened.extend location text)

/-- The files that mark the top of a source tree. -/
def sourceMarkers : List String := ["VERSION", "LICENSE"]

/-- The directory holds every marker of a source tree. -/
def isSourceTop (files : Files) (path : Path) : Bool :=
  match files.list path with
  | .ok names => sourceMarkers.all names.contains
  | .error _ => false

/-- The nearest directory, from a path upwards, that is the top of a source tree. -/
def sourceTop? (files : Files) (start : Path) : Option Path :=
  start.ancestors.find? files.isSourceTop

end Files

end SuiteTree
