import SuiteTree.Error
import SuiteTree.Files
import SuiteTree.Number.Layout
import SuiteTree.Settings
import SuiteTree.Settings.Hjson
import SuiteTree.Settings.Ini
import SuiteTree.Settings.Json
import SuiteTree.Settings.Toml
import SuiteTree.Settings.Yaml
import SuiteTree.Text.Lower

/-!
# Loading settings

Settings come from a file, in one of several formats, and from environment variables, which win. A
value is converted to the type of its setting; one that cannot be is an error that names the
setting and where the value was found.
-/

namespace SuiteTree.Settings

/-- The formats of settings files. -/
inductive Format
  | toml
  | json
  | yaml
  | hjson
  | ini
  deriving Repr, DecidableEq

namespace Format

def all : List Format :=
  [toml, json, yaml, hjson, ini]

/-- The extensions of file names that show a format. -/
def extensions : Format → List String
  | toml => ["toml"]
  | json => ["json"]
  | yaml => ["yaml", "yml"]
  | hjson => ["hjson"]
  | ini => ["ini"]

/-- Read a document. -/
def read : Format → String → Option Document
  | toml => Toml.read
  | json => Json.read
  | yaml => Yaml.read
  | hjson => Hjson.read
  | ini => Ini.read

/-- The format that an extension shows. -/
def ofExtension (extension : String) : Option Format :=
  all.find? fun format => format.extensions.contains extension

end Format

/-- What a setting is given. Of lists and tables only that they are such is of interest. -/
inductive Kind
  | null
  | bool (b : Bool)
  | int (n : Int)
  | number (x : Float)
  | text (s : String)
  | list
  | table
  deriving Inhabited

namespace Kind

def ofDocument : Document → Kind
  | .null => null
  | .bool b => bool b
  | .int n => int n
  | .number x => number x
  | .text s => text s
  | .list _ => list
  | .table _ => table

/-- How an error names a value. -/
def name : Kind → String
  | null => "unit value"
  | bool b => "boolean " ++ describeBool b
  | int n => "integer " ++ toString n
  | number x => "floating point " ++ Number.Layout.message.render x
  | text s => "string " ++ Text.quote s
  | list => "sequence"
  | table => "map"

end Kind

/-- What a setting is given, and where. A table that is put together has no origin. -/
structure Given where
  kind : Kind
  origin : Option String := none
  deriving Inhabited

/-- What each setting is given, by key. -/
abbrev Pool := List (String × Given)

namespace Pool

/-- Replace what a key is given. -/
def put (pool : Pool) (key : String) (given : Given) : Pool :=
  (key, given) :: pool.filter (·.1 != key)

/-- A character of a name in a path. -/
def isIdentChar (c : Char) : Bool :=
  c.isAlphanum || c == ' ' || c == '_' || c == '-'

/-- What a key leads to below the top level. -/
inductive Tail
  | none
  | entry
  | item

/-- Split a key into a name and what follows: an entry after a point, or an item in brackets. A key
that is no such path is a name as it is. -/
def splitKey (key : String) : String × Tail :=
  let cs := key.toList
  let name := cs.takeWhile isIdentChar
  let rest := cs.dropWhile isIdentChar
  if name.isEmpty || !isPath (rest.length + 1) rest then (key, .none)
  else
    match rest with
    | '.' :: _ => (String.ofList name, .entry)
    | '[' :: _ => (String.ofList name, .item)
    | _ => (key, .none)
where
  /-- Entries and items, one after the other. -/
  isPath : Nat → List Char → Bool
    | 0, _ => false
    | fuel + 1, cs =>
      match cs with
      | [] => true
      | '.' :: rest =>
        (rest.head?.any isIdentChar) && isPath fuel (rest.dropWhile isIdentChar)
      | '[' :: rest =>
        match afterNumber (rest.dropWhile isSpace) with
        | some after =>
          let after := after.dropWhile isSpace
          after.head? == some ']' && isPath fuel (after.drop 1)
        | none => false
      | _ => false
  /-- A blank around the number of an item. -/
  isSpace (c : Char) : Bool :=
    c == ' ' || c == '\t'
  /-- What follows the number of an item, which has 64 bits. -/
  afterNumber (cs : List Char) : Option (List Char) :=
    let sign := if cs.head? == some '-' then cs.take 1 else []
    let digits := (cs.drop sign.length).takeWhile Char.isDigit
    match Digits.signed? 10 (sign ++ digits) with
    | some n => if Document.fitsInt n then some (cs.drop (sign ++ digits).length) else none
    | none => none

/-- Give a key a value from a source. A path below the top level makes its setting a table or a
list. Tables are merged, so they belong to no source. -/
def give (pool : Pool) (origin : String) (key : String) (value : Document) : Pool :=
  let (name, tail) := splitKey key
  match tail with
  | .entry => pool.put name ⟨.table, none⟩
  | .item =>
    match pool.lookup name with
    | some ⟨.list, _⟩ => pool
    | _ => pool.put name ⟨.list, none⟩
  | .none =>
    match value with
    | .table [] => if (pool.lookup name).isSome then pool else pool.put name ⟨.table, none⟩
    | .table _ => pool.put name ⟨.table, none⟩
    | other => pool.put name ⟨.ofDocument other, some origin⟩

end Pool

/-- Why a value is of the wrong type. -/
def Given.wrongType (given : Given) (key expected : String) : SettingsError :=
  .wrongType given.kind.name expected (some key) given.origin

/-- A setting that is on or off. Numbers other than zero and some words stand for on. -/
def Given.toBool (given : Given) (key : String) : Except SettingsError Bool :=
  match given.kind with
  | .bool b => .ok b
  | .int n => .ok (n != 0)
  | .number x => .ok (x != 0)
  | .text s =>
    let lower := Text.lower s
    if ["1", "true", "on", "yes"].contains lower then .ok true
    else if ["0", "false", "off", "no"].contains lower then .ok false
    else .error (({ given with kind := .text lower } : Given).wrongType key "a boolean")
  | _ => .error (given.wrongType key "a boolean")

/-- A setting that is a text, or missing if it is null. -/
def Given.toText (given : Given) (key : String) : Except SettingsError (Option String) :=
  match given.kind with
  | .null => .ok none
  | .bool b => .ok (some (describeBool b))
  | .int n => .ok (some (toString n))
  | .number x => .ok (some (Number.Layout.message.render x))
  | .text s => .ok (some s)
  | _ => .error (given.wrongType key "a string")

/-- Settings from what is given. A setting that is not given has its default. -/
def ofPool (pool : Pool) : Except SettingsError Settings := do
  let text (key : String) : Except SettingsError (Option String) :=
    match pool.lookup key with
    | some given => given.toText key
    | none => .ok none
  let bool (key : String) : Except SettingsError Bool :=
    match pool.lookup key with
    | some given => given.toBool key
    | none => .ok false
  pure {
    tempDir := (← text "tempdir").map Path.mk
    dataDir := (← text "datadir").map Path.mk
    verbose := ← bool "verbose"
    xml := ← bool "xml"
    fullness := ← text "fullness"
    fixtures := ← bool "fixtures" }

/-- The settings file that a name stands for, and its format. A file that does not exist is looked
for under the extensions of the formats. -/
def findFile (files : Files) (name : Path) : Except SettingsError (Path × Format) :=
  let current : Path := ⟨"/" ++ "/".intercalate files.current⟩
  let path := current ++ name
  if files.isFile path then
    match Format.ofExtension (path.extension.getD "") with
    | some format => .ok (path, format)
    | none => .error (.unusableFile
        ("configuration file \"" ++ path.text ++ "\" is not of a registered file format"))
  else
    let candidates := Format.all.flatMap fun format =>
      format.extensions.map fun extension => (path.withExtension extension, format)
    match candidates.find? fun (candidate, _) => files.isFile candidate with
    | some found => .ok found
    | none => .error (.unusableFile ("configuration file \"" ++ name.text ++ "\" not found"))

/-- The names on the way from one directory to a place, both given from the root. -/
def stepsFrom : (start goal : List String) → List String
  | here :: more, there :: rest =>
    if here = there then stepsFrom more rest
    else List.replicate (more.length + 1) ".." ++ there :: rest
  | start, [] => List.replicate start.length ".."
  | [], goal => goal

/-- An absolute path as seen from the current directory. -/
def relative (files : Files) (path : Path) : String :=
  let names := (path.components.map Path.text).drop 1
  (Path.join ((stepsFrom files.current names).map Path.mk)).text

/-- What a file gives. -/
def poolOfFile (files : Files) (name : Path) : Except SettingsError Pool := do
  let (path, format) ← findFile files name
  let text ← match files.readText path with
    | .ok text => pure text
    | .error cause => throw (.unusableFile cause.message)
  let origin := relative files path
  match format.read text with
  | none => throw (.malformed ("malformed settings in " ++ origin))
  | some document =>
    pure (document.entries.foldl (fun pool (key, value) => pool.give origin key value) [])

/-- The start of environment variables that hold settings, in any case of letters. -/
def variableStart : String := "simtest_"

/-- Add what environment variables give. -/
def giveVariables (pool : Pool) (env : List (String × String)) : Pool :=
  env.foldl (fun pool (name, value) =>
    let lower := (Text.lower name).toList
    let start := variableStart.toList
    if start.isPrefixOf lower then
      pool.give "the environment" (String.ofList (lower.drop start.length)) (.text value)
    else pool) pool

/-- Load settings from a file, if one is named, and from environment variables. -/
def load (files : Files) (file : Option Path) (env : List (String × String)) :
    Except SettingsError Settings := do
  let pool ← match file with
    | some name => poolOfFile files name
    | none => pure []
  ofPool (giveVariables pool env)

end SuiteTree.Settings
