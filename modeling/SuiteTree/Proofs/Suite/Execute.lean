import SuiteTree.Proofs.Run.Emission
import SuiteTree.Runner

/-!
# Executing a suite

Executing the only suite of a selection is a run of its root and, if the run does not end the
process, a conclusion: the report is written and the exit code is read off the root. After a failure
an execution may stop at once or go on to its end, and both come to the same conclusion. It depends
on the run only through the suite and the scene that the run leaves behind.
-/

namespace SuiteTree

namespace Act

/-- The scene that an execution leaves behind. -/
def sceneOf {α : Type} : EStateM.Result Stop Scene α → Scene
  | .ok _ scene => scene
  | .error _ scene => scene

/-- The value of an execution, or why it has none. -/
def valueOf {α : Type} : EStateM.Result Stop Scene α → Except Stop α
  | .ok a _ => .ok a
  | .error stop _ => .error stop

/-- The report of a suite that has been run. -/
def reportOf (options : Options) (ran : Suite) : String :=
  Report.render (.ofOptions options) 0 (ran.tree.outline Tree.root)

/-- The exit code of a suite that has been run. -/
def codeOf (ran : Suite) : ExitCode :=
  if ran.isFailed then .failure else .success

/-- What is left to do once a suite has been run. -/
def conclude (options : Options) (target : Target) (ran : Suite) : Act ExitCode := do
  writeReport target (reportOf options ran)
  if ran.isFailed then
    logAll [.warn ("Suite '" ++ ran.name ++ "' failed")]
    pure .failure
  else pure .success

end Act

/-- The state in which the run of a suite starts. -/
def Suite.startIn (suite : Suite) (scene : Scene) : State :=
  ⟨suite.tree, scene.world.log (.info ("Running " ++ suite.title))⟩

/-- The scene after a suite has been run. -/
def Scene.afterRun (scene : Scene) (ran : Suite) (world : World) : Scene :=
  { scene with world, finished := scene.finished ++ [ran] }

section

variable {options : Options} {suite : Suite} {target : Target} {scene : Scene} {s : State}

/-- An action that begins by looking at the scene. -/
theorem Act.get_bind {α : Type} (f : Scene → Act α) : (get >>= f) scene = f scene scene := rfl

/-- What running a suite comes to. -/
theorem Act.runSuite_eq : Act.runSuite options suite scene =
    match runNode options suite.hooksOf Tree.root ⟨suite.tree, scene.world⟩ with
    | .ok _ s =>
      .ok { suite with tree := s.tree } (scene.afterRun { suite with tree := s.tree } s.world)
    | .error how s => .error (.halted how) { scene with world := s.world } := by
  unfold Act.runSuite
  rw [Act.get_bind]
  cases runNode options suite.hooksOf Tree.root ⟨suite.tree, scene.world⟩ <;> rfl

/-- The only suite of a selection is run and then concluded. If it failed, the execution comes to
the same whether it ends there or goes on. -/
theorem execute_single (options : Options) (suite : Suite) (target : Target) :
    execute options [suite] target = (do
      Act.logAll [.info ("Running " ++ suite.title)]
      let ran ← Act.runSuite options suite
      Act.conclude options target ran) := by
  refine congrArg (Act.logAll _ >>= ·) (funext fun _ => ?_)
  refine congrArg (Act.runSuite options suite >>= ·) (funext fun ran => ?_)
  rw [Act.conclude, Act.reportOf]
  cases ran.isFailed with
  | false => rfl
  | true => cases options.continueOnFailure <;> rfl

theorem execute_eq : execute options [suite] target scene =
    (Act.runSuite options suite >>= Act.conclude options target)
      { scene with world := scene.world.log (.info ("Running " ++ suite.title)) } := by
  rw [execute_single]
  rfl

/-- A run that comes to its end is concluded. -/
theorem execute_of_ended
    (ended : runNode options suite.hooksOf Tree.root (suite.startIn scene) = .ok () s) :
    execute options [suite] target scene =
      Act.conclude options target { suite with tree := s.tree }
        (scene.afterRun { suite with tree := s.tree } s.world) := by
  unfold Suite.startIn at ended
  rw [execute_eq]
  apply bind_of_ok
  rw [Act.runSuite_eq, ended]
  rfl

/-- If the run ends the process, there is nothing to conclude. -/
theorem execute_of_halted {how : Halt}
    (halted : runNode options suite.hooksOf Tree.root (suite.startIn scene) = .error how s) :
    execute options [suite] target scene =
      .error (.halted how) { scene with world := s.world } := by
  unfold Suite.startIn at halted
  rw [execute_eq]
  apply bind_of_error
  rw [Act.runSuite_eq, halted]

/-- A file is opened as it is once the log file is up to date. -/
theorem Act.openOutput_file (path : Path) (append : Bool) (scene : Scene) :
    Act.openOutput (.file path append) scene =
      match scene.settleLog.world.files.openForWriting path append with
      | .error cause => .error (.failed (.io path.text cause)) scene.settleLog
      | .ok (location, files) =>
        .ok (.file location append)
          { scene.settleLog with world := { scene.settleLog.world with files } } := by
  unfold Act.openOutput
  dsimp only
  rw [Act.get_bind]
  cases scene.settleLog.world.files.openForWriting path append <;> rfl

/-- The target takes everything that is written to it. -/
def Target.Accepts (target : Target) (scene : Scene) : Prop :=
  match target with
  | .console => scene.console.room = none
  | .file location _ => scene.world.files.HasFile location

/-- The text was written to the target: after what was there, or over it. -/
def Target.Received (target : Target) (text : String) (before after : Scene) : Prop :=
  match target with
  | .console => after.console.written = before.console.written ++ Sink.bytes text
  | .file location true =>
      ∃ old, after.world.files.at? location = some (.file (old ++ text))
  | .file location false =>
      ∃ rest, after.world.files.at? location = some (.file (text ++ rest))

/-- What writing to a log file leaves alone. -/
theorem Scene.settleLog_keeps (scene : Scene) : scene.settleLog.console = scene.console ∧
    scene.settleLog.finished = scene.finished ∧
    scene.settleLog.world.events = scene.world.events := by
  unfold settleLog
  split <;> exact ⟨rfl, rfl, rfl⟩

theorem Scene.settleLog_of_none (none : scene.logFile = none) : scene.settleLog = scene := by
  rw [settleLog, none]

/-- Writing what the log file lacks removes no file. -/
theorem Scene.hasFile_settleLog {location : Location}
    (has : scene.world.files.HasFile location) :
    scene.settleLog.world.files.HasFile location := by
  unfold Scene.settleLog
  split
  · exact has
  · exact has.extend

/-- Writing to the console either succeeds or fails, and leaves the console as it is then. -/
theorem Act.writeReport_console (text : String) :
    Act.writeReport .console text scene = match scene.console.put text with
      | (.ok _, console) => .ok () { scene with console }
      | (.error cause, console) => .error (.failed (.report cause)) { scene with console } := by
  have printed : Act.writeReport .console text = Act.print text := rfl
  rw [printed]
  unfold Act.print
  rw [Act.get_bind]
  cases scene.console.put text with
  | mk result console => cases result <;> rfl

/-- Writing to a file succeeds. The file is written when the log file is up to date. -/
theorem Act.writeReport_file (location : Location) (append : Bool) (text : String)
    (scene : Scene) : Act.writeReport (.file location append) text scene =
      .ok () { scene.settleLog with world := { scene.settleLog.world with
        files := if append then scene.settleLog.world.files.extend location text
          else scene.settleLog.world.files.overwrite location text } } := rfl

/-- A target that accepts everything receives the report, and nothing else of interest changes. -/
theorem Act.writeReport_of_accepts (accepts : target.Accepts scene) (text : String) :
    ∃ after, Act.writeReport target text scene = .ok () after ∧ target.Received text scene after ∧
      after.finished = scene.finished ∧ after.world.events = scene.world.events := by
  cases target with
  | console =>
      have room : scene.console.room = none := accepts
      have put : scene.console.put text =
          (.ok (), { scene.console with written := scene.console.written ++ Sink.bytes text }) := by
        simp [Sink.put, room]
      refine ⟨{ scene with
        console := { scene.console with written := scene.console.written ++ Sink.bytes text } },
        ?_, rfl, rfl, rfl⟩
      rw [Act.writeReport_console, put]
  | file location append =>
      have has := Scene.hasFile_settleLog accepts
      refine ⟨_, rfl, ?_, scene.settleLog_keeps.2⟩
      cases append with
      | true => exact Files.at?_extend has
      | false => exact Files.at?_overwrite has

/-- When the report has been written, the exit code is given, and at most a record is logged. -/
theorem Act.conclude_of_wrote {ran : Suite} {after : Scene}
    (wrote : Act.writeReport target (Act.reportOf options ran) scene = .ok () after) :
    ∃ journal, Act.conclude options target ran scene =
      .ok (Act.codeOf ran) { after with world := { after.world with journal } } := by
  rw [Act.conclude, bind_of_ok wrote, Act.codeOf]
  cases ran.isFailed with
  | true => exact ⟨_, rfl⟩
  | false => exact ⟨_, rfl⟩

/-- If the report cannot be written, there is no exit code. -/
theorem Act.conclude_of_unwritten {ran : Suite} {stop : Stop} {after : Scene}
    (unwritten : Act.writeReport target (Act.reportOf options ran) scene = .error stop after) :
    Act.conclude options target ran scene = .error stop after := by
  rw [Act.conclude, bind_of_error unwritten]

/-- A conclusion that writes to a file changes the files and the log. -/
theorem Act.conclude_file (options : Options) (location : Location) (append : Bool) (ran : Suite)
    (scene : Scene) : ∃ journal,
    Act.conclude options (.file location append) ran scene = .ok (Act.codeOf ran)
      { scene.settleLog with world := { scene.settleLog.world with
        journal
        files := if append then
            scene.settleLog.world.files.extend location (Act.reportOf options ran)
          else scene.settleLog.world.files.overwrite location (Act.reportOf options ran) } } := by
  exact Act.conclude_of_wrote (Act.writeReport_file ..)

/-- A conclusion that writes to the console changes the console and the log. -/
theorem Act.conclude_console (options : Options) (ran : Suite) (scene : Scene) :
    ∃ journal, Act.conclude options .console ran scene =
    match scene.console.put (Act.reportOf options ran) with
    | (.ok _, console) =>
      .ok (Act.codeOf ran) { scene with console, world := { scene.world with journal } }
    | (.error cause, console) => .error (.failed (.report cause)) { scene with console } := by
  have wrote : Act.writeReport .console (Act.reportOf options ran) scene = _ :=
    Act.writeReport_console _
  split at wrote
  · exact Act.conclude_of_wrote wrote
  · exact ⟨#[], Act.conclude_of_unwritten wrote⟩

/-- After a run with an accepting target the report is written and the exit code is given. -/
theorem Act.conclude_of_accepts (options : Options) (ran : Suite) (accepts : target.Accepts scene) :
    ∃ after, Act.conclude options target ran scene = .ok (Act.codeOf ran) after ∧
      target.Received (Act.reportOf options ran) scene after ∧ after.finished = scene.finished ∧
      after.world.events = scene.world.events := by
  obtain ⟨after, wrote, received, finished, events⟩ :=
    Act.writeReport_of_accepts accepts (Act.reportOf options ran)
  obtain ⟨journal, concluded⟩ := Act.conclude_of_wrote wrote
  refine ⟨_, concluded, ?_, finished, events⟩
  cases target with
  | console => exact received
  | file location append => cases append <;> exact received

end

end SuiteTree
