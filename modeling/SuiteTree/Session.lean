import SuiteTree.Builtin
import SuiteTree.CommandLine
import SuiteTree.CommandLine.Help
import SuiteTree.Runner
import SuiteTree.Settings.Load

/-!
# A session of the runner

What a process does from its command line to its exit status: it reads the command line, opens the
log, loads the settings, registers the suites and invokes the runner. It is a function of what the
process is given at its start, so all that a session changes is in its outcome.
-/

namespace SuiteTree

/-- What a process is given at its start. -/
structure Start where
  arguments : List String
  env : List (String × String)
  files : Files
  host : Host
  supply : Time.Supply := {}

/-- How a process ends. -/
inductive Ending
  | exited (status : Nat)
  | aborted
  deriving Repr, DecidableEq

/-- How the process ends when a hook ends it. -/
def Ending.ofHalt : Halt → Ending
  | .aborted => .aborted
  | .exited code => .exited code.code

/-- What a session leaves behind. -/
structure Outcome where
  ending : Ending
  /-- The bytes of the standard output. -/
  output : List UInt8
  /-- The text of the standard error output. -/
  errors : String
  files : Files
  /-- How many readings of the clocks were asked for. -/
  readingsTaken : Nat

namespace Session

/-- A text of help, followed by an empty line. -/
def help (long : Bool) (env : List (String × String)) : String :=
  CommandLine.Help.text long env ++ "\n"

/-- The threshold of the log unless the command line gives one. -/
def defaultThreshold : Threshold :=
  .upTo .warn

/-- Open the log. Without its file there is no log at all; the user is told, and the session goes
on. The value is the threshold of the records that the user sees. -/
def openLog (a : Arguments) : Act Threshold := do
  let threshold := a.logging.getD defaultThreshold
  let opened : Record := .debug ("Logging level " ++ threshold.name ++ " enabled")
  match a.logFile with
  | none =>
    Act.logAll [opened]
    pure threshold
  | some path =>
    let scene ← get
    match scene.world.files.openForWriting path true with
    | .ok (location, files) =>
      set { scene with
        logFile := some { location, threshold }
        world := { scene.world with files } }
      Act.logAll [opened]
      modify (·.settleLog)
      pure threshold
    | .error cause =>
      let complaint := "Failed to initialise logging: IO Error initializing logger: "
        ++ cause.message ++ "\n"
      set { scene with
        world := { scene.world with journal := scene.world.journal.push (.complaint complaint) } }
      pure .off

/-- The suites of a run. -/
def plans (settings : Settings) : List Plan :=
  Builtin.plans ++ (if settings.fixtures then Builtin.fixturePlans else [])

/-- Settings and options, then the run that they ask for. -/
def work (a : Arguments) (env : List (String × String)) : Act ExitCode := do
  let scene ← get
  let settings ← match Settings.load scene.world.files a.config env with
    | .ok settings => pure settings
    | .error cause => throw (.failed (.settings cause))
  Act.logAll [.debug ("Loaded settings " ++ settings.describe)]
  let options ← match a.options settings with
    | .ok options => pure options
    | .error cause => throw (.failed cause)
  Act.logAll (Registry.recordsOfPlans (plans settings))
  invoke (options.prepared scene.world.host) (Registry.ofPlans (plans settings))

/-- Tell the user about an error, and about the choices there were. -/
def explain (cause : Error) (env : List (String × String)) : Act ExitCode := do
  modify fun scene => { scene with world := scene.world.complain cause }
  match cause with
  | .unknownFullness _ => Act.print (help true env)
  | .unknownCategory _ => Act.print (Report.unlines typeList)
  | _ => pure ()
  pure cause.exitCode

/-- The work of a session, with its errors explained. -/
def conclude (a : Arguments) (env : List (String × String)) : Act Ending := do
  try
    pure (.exited (← work a env).code)
  catch
    | .failed cause => pure (.exited (← explain cause env).code)
    | .halted how => pure (Ending.ofHalt how)

/-- What a session leaves that ends before it has any log. -/
def ended (start : Start) (output : String) : Outcome where
  ending := .exited ExitCode.success.code
  output := Sink.bytes output
  errors := ""
  files := start.files
  readingsTaken := start.supply.taken

/-- A whole session. A command line that cannot be used shows how it is used, and so does one that
asks for help. -/
def run (start : Start) : Outcome :=
  match Arguments.parse start.arguments start.env with
  | .error .helpAsked => ended start (help false start.env)
  | .error _ => ended start (help true start.env)
  | .ok a =>
    let act : Act (Threshold × Ending) := do
      let threshold ← openLog a
      pure (threshold, ← conclude a start.env)
    let world : World := { files := start.files, supply := start.supply, host := start.host }
    let (threshold, ending, scene) :=
      match act { world } with
      | .ok (threshold, ending) scene => (threshold, ending, scene)
      | .error _ scene => (.off, .exited ExitCode.failure.code, scene)
    let scene := scene.settleLog
    { ending
      output := scene.console.written
      errors := scene.world.journal.errorText threshold
      files := scene.world.files
      readingsTaken := scene.world.supply.taken }

/-- The files that the suites may make in the temporary directories of their nodes. -/
def temporaryFiles (options : Options) (suites : Registry) : List Path :=
  suites.flatMap fun suite => (suite.tree.preorder Tree.root).map fun n =>
    suite.tree.tempDirectory options n ++ ⟨Builtin.Directories.scratchFile⟩

/-- The places among the files that a session may look at, as far as they follow from the files that
are known. -/
def places (start : Start) : List Path :=
  match Arguments.parse start.arguments start.env with
  | .error _ => []
  | .ok a =>
    let settingsFiles := a.config.toList.flatMap fun path =>
      path :: Settings.Format.all.flatMap fun format => format.extensions.map path.withExtension
    let reports := match a.output with
      | .console => []
      | .file path _ => [path]
    let temporary := match Settings.load start.files a.config start.env with
      | .error _ => []
      | .ok settings =>
        match a.options settings with
        | .error _ => []
        | .ok options =>
          temporaryFiles (options.prepared start.host) (Registry.ofPlans (plans settings))
    settingsFiles ++ a.logFile.toList ++ reports ++ temporary

end Session

end SuiteTree
