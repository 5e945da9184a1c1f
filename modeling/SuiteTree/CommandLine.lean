import SuiteTree.CommandLine.Matches
import SuiteTree.Log
import SuiteTree.Options
import SuiteTree.Settings

/-!
# The command line of the runner

What a command line says, and what it makes of the settings. A parameter of the command line counts
before the setting of the same meaning; what a setting switches on cannot be switched off.
-/

namespace SuiteTree

/-- What a command line says. -/
structure Arguments where
  printNames : Bool := false
  printTypes : Bool := false
  printTypeList : Bool := false
  printTempDir : Bool := false
  testType : Option String := none
  testName : Option String := none
  assertOnFailure : Bool := false
  stopOnFailure : Bool := false
  fullness : Option String := none
  verbose : Bool := false
  xml : Bool := false
  tempDir : Option Path := none
  dataDir : Option Path := none
  out : Option Path := none
  /-- The report is appended, to a file of its own if one is given. -/
  append : Option (Option String) := none
  updateData : Bool := false
  config : Option Path := none
  logging : Option Threshold := none
  logFile : Option Path := none
  deriving Repr, DecidableEq, Inhabited

namespace Arguments

open CommandLine (Matches UsageError)

/-- The threshold with a name, in any case of letters. -/
def thresholdOfName (name : String) : Threshold :=
  match name.toLower with
  | "error" => .upTo .error
  | "warn" => .upTo .warn
  | "info" => .upTo .info
  | "debug" => .upTo .debug
  | "trace" => .upTo .trace
  | _ => .off

/-- What the parameters given on a command line say. -/
def ofMatches (ms : Matches) : Arguments where
  printNames := ms.has CommandLine.Runner.printNames
  printTypes := ms.has CommandLine.Runner.printTypes
  printTypeList := ms.has CommandLine.Runner.printTypeList
  printTempDir := ms.has CommandLine.Runner.printTempDir
  testType := ms.value? CommandLine.Runner.testType
  testName := ms.value? CommandLine.Runner.testName
  assertOnFailure := ms.has CommandLine.Runner.assertOnFailure
  stopOnFailure := ms.has CommandLine.Runner.stopOnFailure
  fullness := ms.value? CommandLine.Runner.fullness
  verbose := ms.has CommandLine.Runner.verbose
  xml := ms.has CommandLine.Runner.xml
  tempDir := (ms.value? CommandLine.Runner.tempDir).map Path.mk
  dataDir := (ms.value? CommandLine.Runner.dataDir).map Path.mk
  out := (ms.value? CommandLine.Runner.out).map Path.mk
  append := if ms.has CommandLine.Runner.append then some (ms.value? CommandLine.Runner.append)
    else none
  updateData := ms.has CommandLine.Runner.updateData
  config := (ms.value? CommandLine.Runner.config).map Path.mk
  logging := (ms.value? CommandLine.Runner.logging).map thresholdOfName
  logFile := (ms.value? CommandLine.Runner.logFile).map Path.mk

/-- Read a command line, given the environment variables. -/
def parse (arguments : List String) (env : List (String × String)) :
    Except UsageError Arguments := do
  pure (ofMatches (← Matches.ofArguments arguments env))

/-- Where the report goes. -/
def output (a : Arguments) : Output :=
  match a.append, a.out with
  | some (some path), _ => .file ⟨path⟩ true
  | append, some path => .file path append.isSome
  | _, none => .console

/-- The options of a run. -/
def options (a : Arguments) (s : Settings) : Except Error Options := do
  let maxDuration ← match a.fullness.or s.fullness with
    | some text => Duration.ofName text
    | none => pure .quick
  let category ← Category.ofTestType (a.testType.getD "")
  pure {
    filter := { name := a.testName.getD "", category, maxDuration }
    verbose := a.verbose || s.verbose
    xml := a.xml || s.xml
    assertOnFailure := a.assertOnFailure
    continueOnFailure := !a.stopOnFailure
    updateData := a.updateData
    tempDir := (a.tempDir.or s.tempDir).getD .empty
    dataDir := a.dataDir.or s.dataDir
    output := a.output
    printTempDir := a.printTempDir
    printNames := a.printNames
    printTypes := a.printTypes
    printTypeList := a.printTypeList }

end Arguments

end SuiteTree
