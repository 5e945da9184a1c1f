import SuiteTree.LogFile
import SuiteTree.Report
import SuiteTree.Run
import SuiteTree.Selection
import SuiteTree.Sink

/-!
# Running a selection

One invocation of the runner selects suites, and either lists them or runs the only one and writes
its report. An empty selection and one of several suites are errors, and nothing is run.
-/

namespace SuiteTree

/-- Where a run stands: its surroundings, its console, and the suites that have been run. -/
structure Scene where
  world : World
  console : Sink := {}
  /-- The suites that have been run, with the results in their trees. -/
  finished : List Suite := []
  logFile : Option LogFile := none
  deriving Inhabited

/-- Write to the log file, if there is one, what it lacks. -/
def Scene.settleLog (scene : Scene) : Scene :=
  match scene.logFile with
  | none => scene
  | some logFile =>
    let (logFile, files) := logFile.settle scene.world.journal scene.world.files
    { scene with logFile := some logFile, world := { scene.world with files } }

/-- Why an invocation of the runner ended early. -/
inductive Stop
  | failed (cause : Error)
  /-- The process ended. -/
  | halted (how : Halt)
  deriving Repr, DecidableEq

/-- Where the report of a run is written. -/
inductive Target
  | console
  | file (location : Location) (append : Bool)
  deriving Repr, DecidableEq

/-- A step of an invocation. -/
abbrev Act := EStateM Stop Scene

namespace Act

/-- Log several records in order. -/
def logAll (rs : List Record) : Act Unit :=
  modify fun scene => { scene with world := scene.world.logAll rs }

/-- Write a text to the console. -/
def print (text : String) : Act Unit := do
  let scene ← get
  let (result, console) := scene.console.put text
  set { scene with console }
  match result with
  | .ok () => pure ()
  | .error cause => throw (.failed (.report cause))

/-- Open the output that the options ask for. -/
def openOutput (output : Output) : Act Target :=
  match output with
  | .console => pure .console
  | .file path append => do
    let scene := (← get).settleLog
    match scene.world.files.openForWriting path append with
    | .error cause => do
      set scene
      throw (.failed (.io path.text cause))
    | .ok (location, files) => do
      set { scene with world := { scene.world with files } }
      pure (.file location append)

/-- Write the report of a run. -/
def writeReport (target : Target) (text : String) : Act Unit :=
  match target with
  | .console => print text
  | .file location append =>
    modify fun scene =>
      let scene := scene.settleLog
      let files := if append then scene.world.files.extend location text
        else scene.world.files.overwrite location text
      { scene with world := { scene.world with files } }

/-- Run a suite from its root. -/
def runSuite (options : Options) (suite : Suite) : Act Suite := do
  let scene ← get
  match runNode options suite.hooksOf Tree.root ⟨suite.tree, scene.world⟩ with
  | .ok () s =>
    let ran := { suite with tree := s.tree }
    set { scene with world := s.world, finished := scene.finished ++ [ran] }
    pure ran
  | .error how s =>
    set { scene with world := s.world }
    throw (.halted how)

end Act

/-- The test types of the command line, one line for each. -/
def typeList : List String :=
  ["  core:        Run all TestSuite-based tests (exclude examples)",
    "  example:     Examples (to see if example programs run successfully)",
    "  performance: Performance Tests (check to see if the system is as fast as expected)",
    "  system:      System Tests (spans modules to check integration of modules)",
    "  unit:        Unit Tests (within modules to check basic functionality)"]

/-- The names of suites, one line for each, with their categories if they are asked for. -/
def nameList (withTypes : Bool) (suites : List Suite) : List String :=
  suites.map fun s => (if withTypes then s.category.label else "") ++ s.name

/-- Run the only suite of a selection and write its report. If the suite failed and the run is not
to continue after failures, the execution ends there. -/
def execute (options : Options) (selection : List Suite) (target : Target) : Act ExitCode :=
  match selection with
  | [] => throw (.failed .noMatch)
  | [suite] => do
    let mut failed := false
    Act.logAll [.info ("Running " ++ suite.title)]
    let ran ← Act.runSuite options suite
    Act.writeReport target (Report.render (.ofOptions options) 0 (ran.tree.outline Tree.root))
    if ran.isFailed then
      Act.logAll [.warn ("Suite '" ++ ran.name ++ "' failed")]
      failed := true
      if !options.continueOnFailure then
        return .failure
    if failed then pure .failure else pure .success
  | several => throw (.failed (.ambiguous several.length))

/-- The options with a temporary directory. If none is given, the run gets a new one. -/
def Options.prepared (options : Options) (host : Host) : Options :=
  if options.tempDir.text = "" then { options with tempDir := host.temporaryName } else options

/-- Select suites; list them if the options ask for a list, and run them otherwise. -/
def invoke (options : Options) (suites : Registry) : Act ExitCode := do
  Act.logAll [.info (toString suites.length ++ " suites registered")]
  Act.logAll (suites.selectRecords options.filter)
  let selection := suites.select options.filter
  if options.printTempDir then Act.print (options.tempDir.text ++ "\n")
  if options.printNames then
    Act.print (Report.unlines (nameList options.printTypes selection))
    pure .success
  else if options.printTypeList then
    Act.print (Report.unlines typeList)
    pure .success
  else
    let target ← Act.openOutput options.output
    execute options selection target

end SuiteTree
