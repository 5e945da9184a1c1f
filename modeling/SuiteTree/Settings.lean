import SuiteTree.Path
import SuiteTree.Text.Quoted

/-!
# Settings of a run

Settings stand for what the command line leaves open. They come from a file and from environment
variables.
-/

namespace SuiteTree

/-- The settings of a run. -/
structure Settings where
  tempDir : Option Path := none
  dataDir : Option Path := none
  verbose : Bool := false
  xml : Bool := false
  fullness : Option String := none
  /-- Suites that end badly on purpose are registered as well. -/
  fixtures : Bool := false
  deriving Repr, DecidableEq, Inhabited

namespace Settings

/-- A setting that may be missing, as a log record shows it. -/
def describeOption (value : Option String) : String :=
  match value with
  | none => "None"
  | some text => "Some(\n        " ++ text ++ ",\n    )"

/-- A setting that is on or off, as a log record shows it. -/
def describeBool (value : Bool) : String :=
  if value then "true" else "false"

/-- The settings as a log record shows them, one in a line. -/
def describe (s : Settings) : String :=
  let path (p : Option Path) := describeOption (p.map fun p => Text.quotePath p.text)
  let shown := [("tempdir", path s.tempDir), ("datadir", path s.dataDir),
    ("verbose", describeBool s.verbose), ("xml", describeBool s.xml),
    ("fullness", describeOption (s.fullness.map Text.quote)),
    ("fixtures", describeBool s.fixtures)]
  "Settings \x7b\n"
    ++ String.join (shown.map fun (key, text) => "    " ++ key ++ ": " ++ text ++ ",\n")
    ++ "\x7d"

end Settings

end SuiteTree
