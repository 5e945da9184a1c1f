import SuiteTree.Proofs.Run.FileFree
import SuiteTree.Proofs.Suite.Printing
import SuiteTree.Proofs.Tree.Reachable

/-!
# Reports in files

A report may go to a file in place of the console. If the hooks do not touch the files, this changes
nothing else: the same is done with the same result, and the file receives the text that the console
would. A list goes to the console in any case. The file is opened before anything is run, so where
it cannot be opened nothing is.
-/

namespace SuiteTree

/-- The log is not written to this location. -/
def Scene.LogsElsewhere (scene : Scene) (location : Location) : Prop :=
  scene.logFile.map LogFile.location ≠ some location

instance (scene : Scene) (location : Location) : Decidable (scene.LogsElsewhere location) :=
  inferInstanceAs (Decidable (_ ≠ _))

/-- The scene with other files and another state of the log file. -/
def Scene.refiled (scene : Scene) (files : Files) (logFile : Option LogFile) : Scene :=
  { scene with logFile, world := { scene.world with files } }

/-- Since the scene was `before`, nothing was printed, and of the files only the log and the one at
the location were written. Unless the two are the same, the latter holds the text. -/
structure Scene.Filed (before : Scene) (location : Location) (text : String) (scene : Scene) :
    Prop where
  console : scene.console = before.console
  log : scene.logFile.map LogFile.location = before.logFile.map LogFile.location
  text : before.LogsElsewhere location → scene.world.files.at? location = some (.file text)
  others : ∀ other, other ≠ location → before.LogsElsewhere other →
    scene.world.files.at? other = before.world.files.at? other

section Writing

variable {before scene : Scene} {location : Location} {text previous : String} {append : Bool}

/-- What writing to the log file does. -/
theorem Scene.settleLog_eq (scene : Scene) : ∃ files logFile,
    scene.settleLog = scene.refiled files logFile ∧ scene.world.files.SameKinds files ∧
      (∀ other, scene.LogsElsewhere other → files.at? other = scene.world.files.at? other) ∧
      logFile.map LogFile.location = scene.logFile.map LogFile.location := by
  obtain ⟨world, console, finished, logFile⟩ := scene
  cases logFile with
  | none => exact ⟨world.files, none, rfl, .refl _, fun _ _ => rfl, rfl⟩
  | some logFile =>
      refine ⟨_, _, rfl, Files.sameKinds_extend, fun other elsewhere => ?_, rfl⟩
      apply Files.at?_extend_of_ne
      rintro rfl
      exact elsewhere rfl

theorem Scene.Filed.settleLog (filed : before.Filed location text scene) :
    before.Filed location text scene.settleLog := by
  obtain ⟨files, logFile, settled, -, others, log⟩ := scene.settleLog_eq
  have apart {other : Location} (elsewhere : before.LogsElsewhere other) :
      scene.LogsElsewhere other := by rwa [LogsElsewhere, filed.log]
  rw [settled]
  exact {
    console := filed.console
    log := log.trans filed.log
    text := fun own => (others location (apart own)).trans (filed.text own)
    others := fun other ne own => (others other (apart own)).trans (filed.others other ne own) }

/-- A report is written after what the file held when it was opened. -/
theorem Scene.Filed.writeReport (filed : before.Filed location previous scene) (text : String)
    (opened : append = true ∨ previous = "") :
    ∃ files logFile, Act.writeReport (.file location append) text scene =
        .ok () (scene.refiled files logFile) ∧
      before.Filed location (previous ++ text) (scene.refiled files logFile) := by
  have settled := filed.settleLog
  obtain ⟨files, logFile, eq, -⟩ := scene.settleLog_eq
  rw [eq] at settled
  refine ⟨if append then files.extend location text else files.overwrite location text, logFile,
    ?_, settled.console, settled.log, ?_, ?_⟩
  · rw [Act.writeReport_file, eq]
    rfl
  · intro own
    cases append with
    | true => exact Files.at?_extend_self (settled.text own)
    | false =>
        obtain rfl : previous = "" := by simpa using opened
        rw [String.empty_append]
        exact Files.at?_overwrite_empty (settled.text own)
  · intro other ne own
    rw [← settled.others other ne own]
    cases append with
    | true => exact Files.at?_extend_of_ne ne
    | false => exact Files.at?_overwrite_of_ne ne

/-- Opening a file. It can be opened or not whatever the log holds. -/
theorem Act.openOutput_eq (path : Path) (append : Bool) (before : Scene) :
    match before.world.files.openForWriting path append with
    | .error cause => ∃ files logFile, Act.openOutput (.file path append) before =
          .error (.failed (.io path.text cause)) (before.refiled files logFile) ∧
        ∀ other, before.LogsElsewhere other → files.at? other = before.world.files.at? other
    | .ok (location, _) => ∃ files logFile, Act.openOutput (.file path append) before =
          .ok (.file location append) (before.refiled files logFile) ∧
        before.Filed location (if append then before.world.files.textAt location else "")
          (before.refiled files logFile) := by
  obtain ⟨files, logFile, eq, same, others, log⟩ := before.settleLog_eq
  have result := same.openForWriting path append
  rw [Act.openOutput_file, eq]
  have unfolded : (before.refiled files logFile).world.files = files := rfl
  rw [unfolded, result]
  cases opened : before.world.files.openForWriting path append with
  | error cause => exact ⟨files, logFile, rfl, others⟩
  | ok pair =>
      obtain ⟨location, files'⟩ := pair
      have inner := Files.ne_nil_of_opened opened
      refine ⟨files.opened location append, logFile, rfl, rfl, log, fun own => ?_, ?_⟩
      · have held : files.textAt location = before.world.files.textAt location := by
          rw [Files.textAt, Files.textAt, others location own]
        rw [← held]
        exact (Files.at?_put inner).trans (if_pos rfl)
      · intro other ne own
        exact (Files.at?_put_of_ne ne).trans (others other own)

end Writing

/-- The scenes differ at most in what was written: to the console, to the log, and to files. -/
def Scene.SameRun (a b : Scene) : Prop :=
  ∃ console journal files logFile,
    b = { a with console, logFile, world := { a.world with journal, files } }

/-- Two invocations came to the same beside their reports. For both the scene was `before` when a
number of suites had been selected. The report of the first one went to the console, that of the
second one to the file at a location, after the text `previous`. -/
structure Redirected (before : Scene) (location : Location) (previous : String) (selected : Nat)
    (x y : EStateM.Result Stop Scene ExitCode) : Prop where
  value : Act.valueOf y = Act.valueOf x
  same : (Act.sceneOf x).SameRun (Act.sceneOf y)
  files : (Act.sceneOf x).world.files = before.world.files
  report : ∃ text, (selected ≠ 1 → text = "") ∧
    (Act.sceneOf x).console.written = before.console.written ++ Sink.bytes text ∧
    before.Filed location (previous ++ text) (Act.sceneOf y)

section Executing

variable {options : Options} {before : Scene} {location : Location} {previous : String}
  {append : Bool} {files : Files} {logFile : Option LogFile}

/-- What is done when no report is written is the same. -/
theorem redirected_unreported {stop : Stop} {scene scene' : Scene} {selected : Nat}
    (filed : before.Filed location previous scene') (same : scene.SameRun scene')
    (kept : scene.world.files = before.world.files) (silent : scene.console = before.console) :
    Redirected before location previous selected (.error stop scene) (.error stop scene') where
  value := rfl
  same := same
  files := kept
  report := ⟨"", fun _ => rfl, by simp [Act.sceneOf, silent], by simpa [Act.sceneOf] using filed⟩

theorem redirected_conclude {scene : Scene} {ran : Suite} (output : Output)
    (unlimited : scene.console.room = none) (kept : scene.world.files = before.world.files)
    (silent : scene.console = before.console)
    (filed : before.Filed location previous (scene.refiled files logFile))
    (opened : append = true ∨ previous = "") :
    Redirected before location previous 1 (Act.conclude options .console ran scene)
      (Act.conclude { options with output } (.file location append) ran
        (scene.refiled files logFile)) := by
  have text : Act.reportOf { options with output } ran = Act.reportOf options ran := rfl
  obtain ⟨files', logFile', wrote', filed'⟩ :=
    filed.writeReport (Act.reportOf options ran) opened
  rw [← text] at wrote'
  obtain ⟨journal', concluded'⟩ := Act.conclude_of_wrote wrote'
  have wrote : Act.writeReport .console (Act.reportOf options ran) scene = .ok ()
      { scene with console := scene.console.after (Sink.bytes (Act.reportOf options ran)) } :=
    Act.print_of_takes (Sink.takes_of_unlimited unlimited _)
  obtain ⟨journal, concluded⟩ := Act.conclude_of_wrote wrote
  rw [concluded, concluded']
  refine ⟨rfl, ⟨_, _, _, _, rfl⟩, kept, Act.reportOf options ran, fun several => ?_, ?_, ?_⟩
  · exact absurd rfl several
  · rw [← silent]
    exact Sink.written_after_of_unlimited unlimited _
  · exact ⟨filed'.console, filed'.log, filed'.text, filed'.others⟩

/-- Suites whose hooks do not touch the files are executed in the same way. -/
theorem redirected_execute (output : Output) {selection : List Suite}
    (free : ∀ suite ∈ selection, suite.FileFree options) (unlimited : before.console.room = none)
    (filed : before.Filed location previous (before.refiled files logFile))
    (opened : append = true ∨ previous = "") :
    Redirected before location previous selection.length
      (execute options selection .console before)
      (execute { options with output } selection (.file location append)
        (before.refiled files logFile)) := by
  match selection with
  | [] => exact redirected_unreported filed ⟨_, _, _, _, rfl⟩ rfl rfl
  | [suite] =>
      have start : suite.startIn before = ⟨suite.tree, (suite.startIn before).world⟩ := rfl
      have start' : suite.startIn (before.refiled files logFile) =
          ⟨suite.tree, { (suite.startIn before).world with files }⟩ := rfl
      have together := (free suite List.mem_cons_self).together output
        (suite.startIn before).world files
      rw [← start, ← start'] at together
      unfold Run.Together at together
      split at together
      · next _ s _ u ran ran' =>
        obtain ⟨pristine, kept, rfl⟩ := together
        rw [execute_of_ended ran, execute_of_ended ran']
        exact redirected_conclude output unlimited kept rfl
          ⟨filed.console, filed.log, filed.text, filed.others⟩ opened
      · next how s _ u ran ran' =>
        obtain ⟨rfl, pristine, kept, rfl⟩ := together
        rw [execute_of_halted ran, execute_of_halted ran']
        exact redirected_unreported ⟨filed.console, filed.log, filed.text, filed.others⟩
          ⟨_, _, _, _, rfl⟩ kept rfl
      · exact together.elim
  | _ :: _ :: _ => exact redirected_unreported filed ⟨_, _, _, _, rfl⟩ rfl rfl

end Executing

/-- The scene when suites have been selected and the temporary directory has been announced. -/
def Scene.announced (scene : Scene) (options : Options) (suites : Registry) : Scene :=
  { scene.selecting options suites with
    console := scene.console.after (Sink.bytes options.announcement) }

section Invoking

variable {options : Options} {selection : List Suite}

/-- A list is printed wherever reports go. -/
theorem Act.work_of_listing (lists : (options.printNames || options.printTypeList) = true)
    (selection : List Suite) : ∃ text, ∀ output,
      Act.work { options with output } selection = (do Act.print text; pure .success) := by
  unfold Act.work
  cases names : options.printNames with
  | true =>
      exact ⟨Report.unlines (nameList options.printTypes selection), fun _ => if_pos rfl⟩
  | false =>
      rw [names, Bool.false_or] at lists
      exact ⟨Report.unlines typeList, fun _ => (if_neg Bool.false_ne_true).trans (if_pos lists)⟩

theorem Act.work_of_running (runs : (options.printNames || options.printTypeList) = false)
    (selection : List Suite) (output : Output) : Act.work { options with output } selection =
      (Act.openOutput output >>= execute { options with output } selection) := by
  obtain ⟨names, types⟩ := Bool.or_eq_false_iff.1 runs
  unfold Act.work
  rw [names, types, if_neg Bool.false_ne_true, if_neg Bool.false_ne_true]

end Invoking

/-- A report in a file in place of one on the console. If the hooks of the selected suites do not
touch the files, and the console takes everything, it makes no difference beside where the report
goes. A list is printed either way, and the files are not touched. Otherwise, if the file cannot be
opened, that is the result, and nothing is run. If it can, the result is that of printing the
report, and so are the hooks that are called, the environment and the trees. Beyond the announcement
nothing is printed; the file holds, after what it held if the text is appended, what would have been
printed, which is nothing unless a single suite was selected; and no other file is written, except
for that of the log. -/
theorem report_redirected (options : Options) (suites : Registry) (scene : Scene) (path : Path)
    (append : Bool) (unlimited : scene.console.room = none)
    (free : ∀ suite ∈ suites.select options.filter, suite.FileFree options) :
    let printed := invoke { options with output := .console } suites scene
    let filed := invoke { options with output := .file path append } suites scene
    let before := scene.announced options suites
    scene.SameWork before ∧
    before.console.written = scene.console.written ++ Sink.bytes options.announcement ∧
    if options.printNames || options.printTypeList then
      filed = printed ∧ (Act.sceneOf filed).world.files = scene.world.files
    else match scene.world.files.openForWriting path append with
      | .error cause => ∃ files logFile,
          filed = .error (.failed (.io path.text cause)) (before.refiled files logFile) ∧
          ∀ other, scene.LogsElsewhere other → files.at? other = scene.world.files.at? other
      | .ok (location, _) =>
          Redirected before location (if append then scene.world.files.textAt location else "")
            (suites.select options.filter).length printed filed := by
  intro printed filed before
  have fits := Sink.takes_of_unlimited unlimited (Sink.bytes options.announcement)
  have printed_eq : printed =
      Act.work { options with output := .console } (suites.select options.filter) before :=
    invoke_of_announced { options with output := .console } suites scene fits
  have filed_eq : filed =
      Act.work { options with output := .file path append } (suites.select options.filter) before :=
    invoke_of_announced { options with output := .file path append } suites scene fits
  have unlimited' : before.console.room = none := by
    show scene.console.room.map _ = none
    rw [unlimited]
    rfl
  refine ⟨⟨_, _, rfl⟩, ?_, ?_⟩
  · exact Sink.written_after_of_unlimited unlimited _
  rw [printed_eq, filed_eq]
  cases lists : options.printNames || options.printTypeList with
  | true =>
      rw [if_pos rfl]
      obtain ⟨text, lists⟩ := Act.work_of_listing lists (suites.select options.filter)
      have shown := Act.print_of_takes (Sink.takes_of_unlimited unlimited' (Sink.bytes text))
      rw [lists, lists]
      refine ⟨rfl, ?_⟩
      rw [bind_of_ok shown]
      rfl
  | false =>
      rw [if_neg Bool.false_ne_true, Act.work_of_running lists, Act.work_of_running lists]
      have opening := Act.openOutput_eq path append before
      have same : before.world.files = scene.world.files := rfl
      rw [same] at opening
      split at opening
      · next cause refused =>
        obtain ⟨files, logFile, result, others⟩ := opening
        rw [bind_of_error result]
        exact ⟨files, logFile, rfl, others⟩
      · next location _ opened =>
        obtain ⟨files, logFile, result, ready⟩ := opening
        rw [bind_of_ok result]
        refine redirected_execute _ free unlimited' ready ?_
        cases append <;> simp

/-- A report is appended to a file that holds a line already. The second case of the suite fails. -/
theorem failing_case_appended :
    let failing : Program Unit := .request (.fail ⟨"a < b", "2", "1", "", "suite.rs", 7⟩)
    let suite : Suite := ⟨.unit, Tree.twoCases, #[.idle, .idle, { run := failing }]⟩
    let options : Options := { verbose := true, tempDir := ⟨"/tmp/run"⟩, printTempDir := true }
    let files : Files := { entries := [(["report.txt"], .file "previous\n")] }
    let scene : Scene := { world := { files }, logFile := some ⟨["log.txt"], .upTo .debug, 0⟩ }
    scene.console.room = none ∧
      (∀ chosen ∈ Registry.select [suite] options.filter, chosen.FileFree options) ∧
      files.openForWriting ⟨"report.txt"⟩ true = .ok (["report.txt"], files) ∧
      scene.LogsElsewhere ["report.txt"] ∧
      Redirected (scene.announced options [suite]) ["report.txt"] "previous\n" 1
        (invoke { options with output := .console } [suite] scene)
        (invoke { options with output := .file ⟨"report.txt"⟩ true } [suite] scene) := by
  intro failing suite options files scene
  have quiet : ∀ declared n phase,
      ((suite.hooksOf n).at phase).All (Request.FileFree options declared) := by
    intro declared n phase
    match n, phase with
    | 0, phase | 1, phase | _ + 3, phase => cases phase <;> trivial
    | 2, .setup | 2, .teardown => trivial
    | 2, .run => exact ⟨trivial, fun _ => trivial⟩
  have free : ∀ chosen ∈ Registry.select [suite] options.filter, chosen.FileFree options := by
    intro chosen mem n _ phase
    obtain ⟨original, among, rfl⟩ := List.mem_map.1 mem
    obtain rfl := List.mem_singleton.1 (List.mem_filter.1 among).1
    exact quiet _ n phase
  have opened : files.openForWriting ⟨"report.txt"⟩ true = .ok (["report.txt"], files) := rfl
  have outcome := (report_redirected options [suite] scene ⟨"report.txt"⟩ true rfl free).2.2
  have runs : ¬(options.printNames || options.printTypeList) = true := Bool.false_ne_true
  have same : scene.world.files = files := rfl
  rw [if_neg runs, same, opened] at outcome
  exact ⟨rfl, free, opened, by decide, outcome⟩

end SuiteTree
