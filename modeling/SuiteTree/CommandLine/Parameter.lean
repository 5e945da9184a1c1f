/-!
# Parameters of a command line

A parameter is given by a long name after two dashes, by one of its further long names, or by a
letter after one dash. It takes no value, one value, or at most one value. A parameter with a
variable takes the value of that environment variable beside those of the command line. The
parameters of the runner stand in the order of its help text.
-/

namespace SuiteTree.CommandLine

/-- How many values a parameter takes. -/
inductive Arity
  | flag
  | one
  | atMostOne
  deriving Repr, DecidableEq

/-- A parameter that a command line may name. -/
structure Parameter where
  long : String
  /-- Further long names. The help text does not show them. -/
  aliases : List String := []
  short : Option Char := none
  arity : Arity := .flag
  /-- What the help text writes for the value; the long name if nothing else is given. -/
  valueName : Option String := none
  help : String
  /-- The environment variable whose value is taken as well. -/
  env : Option String := none
  /-- The values that are admitted, in any case of letters; every value if there are none. -/
  choices : List String := []
  deriving Repr, DecidableEq

namespace Parameter

/-- The parameter is given by this long name. -/
def hasLong (p : Parameter) (name : String) : Bool :=
  p.long == name || p.aliases.contains name

/-- The value is one of the choices. -/
def admits (p : Parameter) (value : String) : Bool :=
  p.choices.isEmpty || p.choices.any fun choice => choice.toLower == value.toLower

end Parameter

namespace Runner

def assertOnFailure : Parameter where
  long := "assert-on-failure"
  help := "When a test fails, crash immediately (useful when running under a debugger)"

def help : Parameter where
  long := "help"
  short := some 'h'
  help := "Prints help information"

def printTempDir : Parameter where
  long := "print-temp-dir"
  help := "Print name of temporary directory before running the tests"

def printNames : Parameter where
  long := "print-test-name-list"
  aliases := ["list"]
  help := "Print the list of names of tests available"

def printTypeList : Parameter where
  long := "print-test-type-list"
  help := "Print the list of types of tests available"

def printTypes : Parameter where
  long := "print-test-types"
  help := "Print the type of tests along with their names"

def stopOnFailure : Parameter where
  long := "stop-on-failure"
  help := "When a test fails, stop immediately"

def updateData : Parameter where
  long := "update-data"
  help := "Regenerate reference data instead of writing to the temp dir"

def verbose : Parameter where
  long := "verbose"
  help := "Print details of test execution"

def xml : Parameter where
  long := "xml"
  help := "Format test run output as xml"

def append : Parameter where
  long := "append"
  arity := .atMostOne
  valueName := some "FILE"
  help := "Append test result to FILE (or to --out) instead of truncating it"

def config : Parameter where
  long := "config"
  arity := .one
  valueName := some "FILE"
  help := "Settings file. Supported: YAML, JSON, TOML, HJSON"

def dataDir : Parameter where
  long := "datadir"
  arity := .one
  valueName := some "DIR"
  help := "Set data dir for tests to read reference files"

def fullness : Parameter where
  long := "fullness"
  arity := .one
  valueName := some "FULLNESS"
  help := "Duration of tests to run: QUICK, EXTENSIVE or TAKES_FOREVER, where each level includes "
    ++ "the shorter ones"

def logFile : Parameter where
  long := "log-output-file"
  short := some 'O'
  arity := .one
  help := "File to which application will write logs"
  env := some "LOG_OUTPUT_FILE"

def logging : Parameter where
  long := "logging"
  short := some 'L'
  arity := .one
  help := "Sets a logging level"
  env := some "LOG_LEVEL"
  choices := ["Off", "Error", "Warn", "Info", "Debug", "Trace"]

def out : Parameter where
  long := "out"
  arity := .one
  valueName := some "FILE"
  help := "Send test result to FILE instead of standard output"

def tempDir : Parameter where
  long := "tempdir"
  arity := .one
  valueName := some "DIR"
  help := "Set temp dir for tests to store output files"

def testName : Parameter where
  long := "test-name"
  aliases := ["suite"]
  arity := .one
  valueName := some "NAME"
  help := "Process only the test suite whose name is NAME"

def testType : Parameter where
  long := "test-type"
  arity := .one
  valueName := some "TYPE"
  help := "Process only tests of type TYPE: core, example, unit, system or performance"

/-- The parameters that take no value. -/
def flags : List Parameter :=
  [assertOnFailure, help, printTempDir, printNames, printTypeList, printTypes, stopOnFailure,
    updateData, verbose, xml]

/-- The parameters that take a value. -/
def options : List Parameter :=
  [append, config, dataDir, fullness, logFile, logging, out, tempDir, testName, testType]

end Runner

end SuiteTree.CommandLine
