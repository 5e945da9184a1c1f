import SuiteTree.Proofs.Report.Walk
import SuiteTree.Proofs.Suite.Execute

/-!
# Printing to a console that fills up

A text may be printed in pieces: the console holds the same bytes in the end, and printing fails at
the first piece that does not fit, so that nothing comes after it.

An invocation prints, and beside that it does nothing that depends on the console. On a console that
fills up it therefore loses a suffix of its text and its result, and nothing else.
-/

namespace SuiteTree

namespace Sink

variable {sink : Sink} {as bs : List UInt8}

/-- The console has room for the bytes. -/
def takes (sink : Sink) (bs : List UInt8) : Bool :=
  sink.room.all (bs.length ≤ ·)

/-- The bytes that the console takes. -/
def taken (sink : Sink) (bs : List UInt8) : List UInt8 :=
  match sink.room with
  | none => bs
  | some room => bs.take room

/-- The console after bytes were written to it as far as there was room. -/
def after (sink : Sink) (bs : List UInt8) : Sink where
  written := sink.written ++ sink.taken bs
  room := sink.room.map (· - bs.length)

/-- What writing to a console comes to. -/
theorem put_eq (sink : Sink) (text : String) :
    sink.put text =
      (if sink.takes (bytes text) then .ok () else .error full, sink.after (bytes text)) := by
  obtain ⟨written, room⟩ := sink
  cases room with
  | none => rfl
  | some room =>
      by_cases fits : (bytes text).length ≤ room
      · simp [put, takes, after, taken, fits, List.take_of_length_le fits]
      · simp [put, takes, after, taken, fits, Nat.sub_eq_zero_of_le (Nat.le_of_not_le fits)]

@[simp] theorem takes_nil : sink.takes [] = true := by
  unfold takes
  cases sink.room <;> simp

@[simp] theorem after_nil : sink.after [] = sink := by
  obtain ⟨written, room⟩ := sink
  cases room <;> simp [after, taken]

/-- A console without limit takes everything. -/
theorem takes_of_unlimited (unlimited : sink.room = none) (bs : List UInt8) :
    sink.takes bs = true := by
  rw [takes, unlimited]
  rfl

theorem after_of_unlimited (unlimited : sink.room = none) (bs : List UInt8) :
    sink.after bs = { sink with written := sink.written ++ bs } := by
  rw [after, taken, unlimited]
  rfl

theorem written_after_of_unlimited (unlimited : sink.room = none) (bs : List UInt8) :
    (sink.after bs).written = sink.written ++ bs := by
  rw [after_of_unlimited unlimited]

/-- What follows is taken if there is room for it after what comes first. -/
theorem takes_append : sink.takes (as ++ bs) = (sink.takes as && (sink.after as).takes bs) := by
  obtain ⟨written, room⟩ := sink
  cases room with
  | none => rfl
  | some room =>
      simp only [takes, after, Option.all_some, Option.map_some, List.length_append,
        ← Bool.decide_and, decide_eq_decide]
      omega

theorem after_append : sink.after (as ++ bs) = (sink.after as).after bs := by
  obtain ⟨written, room⟩ := sink
  cases room with
  | none => simp [after, taken]
  | some room => simp [after, taken, List.take_append, Nat.sub_sub]

/-- A console that was too small for some bytes takes none of those that follow. -/
theorem after_of_full (short : sink.takes as = false) (bs : List UInt8) :
    (sink.after as).after bs = sink.after as := by
  obtain ⟨written, room⟩ := sink
  cases room with
  | none => cases short
  | some room =>
      have none : room - as.length = 0 := by
        simp only [takes, Option.all_some, decide_eq_false_iff_not] at short
        omega
      simp [after, taken, none]

private theorem toList_loop (bs : ByteArray) (i : Nat) (front : List UInt8) :
    ByteArray.toList.loop bs i front = front.reverse ++ bs.data.toList.drop i := by
  fun_induction ByteArray.toList.loop bs i front with
  | case1 i front inside ih =>
      have inside' : i < bs.data.toList.length := by simpa using inside
      have next : bs.get! i = bs.data[i] := getElem!_pos bs.data i inside
      rw [ih, List.drop_eq_getElem_cons inside']
      simp [next]
  | case2 i front outside =>
      rw [List.drop_of_length_le (by simpa using outside), List.append_nil]

theorem bytes_eq (text : String) : bytes text = text.toByteArray.data.toList :=
  toList_loop _ 0 []

theorem bytes_append (a b : String) : bytes (a ++ b) = bytes a ++ bytes b := by
  simp [bytes_eq]

@[simp] theorem bytes_empty : bytes "" = [] := by
  simp [bytes_eq]

end Sink

namespace Act

variable {scene : Scene}

/-- What printing comes to. -/
theorem print_eq (text : String) (scene : Scene) : print text scene =
    if scene.console.takes (Sink.bytes text) then
      .ok () { scene with console := scene.console.after (Sink.bytes text) }
    else
      .error (.failed (.report Sink.full))
        { scene with console := scene.console.after (Sink.bytes text) } := by
  have printed : print text scene = writeReport .console text scene := rfl
  rw [printed, writeReport_console, Sink.put_eq]
  cases scene.console.takes (Sink.bytes text) <;> rfl

theorem print_of_takes {text : String} (fits : scene.console.takes (Sink.bytes text) = true) :
    print text scene =
      .ok () { scene with console := scene.console.after (Sink.bytes text) } := by
  rw [print_eq, if_pos fits]

theorem print_of_short {text : String} (short : scene.console.takes (Sink.bytes text) = false) :
    print text scene = .error (.failed (.report Sink.full))
      { scene with console := scene.console.after (Sink.bytes text) } := by
  rw [print_eq, if_neg (ne_true_of_eq_false short)]

theorem print_empty : print "" = pure () := by
  funext scene
  rw [print_eq, Sink.bytes_empty, Sink.takes_nil, Sink.after_nil]
  rfl

/-- A text is printed by printing a part of it and then, unless that failed, the rest. -/
theorem print_append (a b : String) : print (a ++ b) = (do print a; print b) := by
  funext scene
  rw [print_eq, Sink.bytes_append, Sink.takes_append, Sink.after_append]
  cases first : scene.console.takes (Sink.bytes a) with
  | true => rw [bind_of_ok (print_of_takes first), print_eq, Bool.true_and]
  | false =>
      rw [bind_of_error (print_of_short first), Bool.false_and, if_neg Bool.false_ne_true,
        Sink.after_of_full first]

/-- Print some texts, one after the other. -/
def printEach : List String → Act Unit
  | [] => pure ()
  | text :: rest => do
    print text
    printEach rest

theorem printEach_eq (pieces : List String) : printEach pieces = print (String.join pieces) := by
  induction pieces with
  | nil => exact print_empty.symm
  | cons text rest ih => rw [printEach, ih, String.join_cons, print_append]

open Report

/-- Print some lines, one after the other. -/
def printLines (ls : List String) : Act Unit :=
  printEach (ls.map (· ++ "\n"))

theorem printLines_eq (ls : List String) : printLines ls = print (unlines ls) :=
  printEach_eq _

theorem printLines_append (ls ls' : List String) :
    printLines (ls ++ ls') = (do printLines ls; printLines ls') := by
  simp only [printLines_eq, unlines_append, print_append]

/-- Print a report by going through the entries. -/
def printView (format : Format) (level : Nat) : View → Act Unit
  | .nil => pure ()
  | .entry e below beside => do
    printLines (format.opening level e)
    if format.descends then printView format (level + 1) below
    printLines (format.closing level)
    printView format level beside

theorem printView_eq (format : Format) (level : Nat) (v : View) :
    printView format level v = printLines (lines format level v) := by
  induction v generalizing level with
  | nil =>
      rw [lines_nil]
      rfl
  | entry e below beside ihBelow ihBeside =>
      rw [lines_entry, printLines_append, printLines_append, printLines_append, printView, ihBelow,
        ihBeside]
      cases format.descends <;> simp [printLines, printEach]

end Act

/-- The scenes differ at most in what the user was told: in the consoles and in the notices. -/
def Scene.SameWork (a b : Scene) : Prop :=
  ∃ console journal, b = { a with console, world := { a.world with journal } }

namespace Scene.SameWork

variable {a b c : Scene}

theorem refl (a : Scene) : a.SameWork a :=
  ⟨a.console, a.world.journal, rfl⟩

theorem symm (same : a.SameWork b) : b.SameWork a := by
  obtain ⟨console, journal, rfl⟩ := same
  exact ⟨a.console, a.world.journal, rfl⟩

theorem trans (same : a.SameWork b) (same' : b.SameWork c) : a.SameWork c := by
  obtain ⟨console, journal, rfl⟩ := same
  obtain ⟨console', journal', rfl⟩ := same'
  exact ⟨console', journal', rfl⟩

end Scene.SameWork

/-- The log file does not depend on the console. -/
theorem Scene.settleLog_onConsole (scene : Scene) (console : Sink) :
    ({ scene with console } : Scene).settleLog = { scene.settleLog with console } := by
  obtain ⟨world, _, finished, logFile⟩ := scene
  cases logFile <;> rfl

namespace Act

open Report

variable {α β : Type}

/-- The same result with another console. -/
def onConsole (console : Sink) : EStateM.Result Stop Scene α → EStateM.Result Stop Scene α
  | .ok a scene => .ok a { scene with console }
  | .error stop scene => .error stop { scene with console }

/-- The action prints these bytes and comes to this result, on any console with room for the bytes.
On a smaller one it fails, and it has done the same beside printing. -/
structure Prints (x : Act α) (scene : Scene) (bs : List UInt8)
    (r : EStateM.Result Stop Scene α) : Prop where
  whole (console : Sink) (fits : console.takes bs = true) :
    x { scene with console } = onConsole (console.after bs) r
  cut (console : Sink) (short : console.takes bs = false) : ∃ scene',
    x { scene with console } = .error (.failed (.report Sink.full)) scene' ∧
      scene'.console = console.after bs ∧ (sceneOf r).SameWork scene'

/-- The action does not use the console. -/
def Silent (x : Act α) (scene : Scene) : Prop :=
  ∀ console, x { scene with console } = onConsole console (x scene)

variable {x : Act α} {f : α → Act β} {scene scene' : Scene} {bs : List UInt8} {a : α}

theorem prints_print (text : String) :
    (print text).Prints scene (Sink.bytes text) (.ok () scene) where
  whole _ fits := print_of_takes fits
  cut _ short := ⟨_, print_of_short short, rfl, _, _, rfl⟩

theorem Silent.prints (silent : x.Silent scene) : x.Prints scene [] (x scene) where
  whole console _ := by rw [silent console, Sink.after_nil]
  cut console short := by simp at short

/-- An action that prints may follow one that does not. -/
theorem Silent.bind_prints (silent : x.Silent scene)
    (rest : ∀ a scene', ∃ bs r, (f a).Prints scene' bs r) :
    ∃ bs r, (x >>= f).Prints scene bs r := by
  cases result : x scene with
  | ok a scene' =>
      have first (console : Sink) : x { scene with console } = .ok a { scene' with console } := by
        rw [silent console, result]
        rfl
      obtain ⟨bs, r, prints⟩ := rest a scene'
      refine ⟨bs, r, ?_, ?_⟩
      · intro console fits
        rw [bind_of_ok (first console), prints.whole console fits]
      · intro console short
        rw [bind_of_ok (first console)]
        exact prints.cut console short
  | error stop scene' =>
      refine ⟨[], _, Silent.prints fun console => ?_⟩
      have first : x { scene with console } = .error stop { scene' with console } := by
        rw [silent console, result]
        rfl
      rw [bind_of_error first, bind_of_error result]
      rfl

/-- An action that only logs may follow one that prints. -/
theorem Prints.bind_silent (prints : x.Prints scene bs (.ok a scene'))
    (silent : (f a).Silent scene') (logs : scene'.SameWork (sceneOf (f a scene'))) :
    (x >>= f).Prints scene bs (f a scene') where
  whole console fits := by rw [bind_of_ok (prints.whole console fits), silent]
  cut console short := by
    obtain ⟨after, result, room, same⟩ := prints.cut console short
    exact ⟨after, bind_of_error result, room, logs.symm.trans same⟩

theorem silent_openOutput (output : Output) (scene : Scene) :
    (openOutput output).Silent scene := by
  intro console
  cases output with
  | console => rfl
  | file path append =>
      rw [openOutput_file, openOutput_file, Scene.settleLog_onConsole]
      cases scene.settleLog.world.files.openForWriting path append <;> rfl

theorem silent_runSuite (options : Options) (suite : Suite) (scene : Scene) :
    (runSuite options suite).Silent scene := by
  intro console
  rw [runSuite_eq, runSuite_eq]
  cases runNode options suite.hooksOf Tree.root ⟨suite.tree, scene.world⟩ <;> rfl

theorem silent_writeReport_file (location : Location) (append : Bool) (text : String)
    (scene : Scene) : (writeReport (.file location append) text).Silent scene := by
  intro console
  rw [writeReport_file, writeReport_file, Scene.settleLog_onConsole]
  rfl

/-- A conclusion prints at most the report. -/
theorem exists_prints_conclude (options : Options) (target : Target) (ran : Suite) (scene : Scene) :
    ∃ bs r, (conclude options target ran).Prints scene bs r := by
  unfold conclude
  cases target with
  | console =>
      refine ⟨_, _, (prints_print (reportOf options ran)).bind_silent ?_ ?_⟩
      · intro console
        cases ran.isFailed <;> rfl
      · cases ran.isFailed <;> exact ⟨_, _, rfl⟩
  | file location append =>
      refine (silent_writeReport_file location append _ scene).bind_prints fun _ scene' => ?_
      refine ⟨[], _, Silent.prints fun console => ?_⟩
      cases ran.isFailed <;> rfl

/-- An execution prints at most the report of the suite. -/
theorem exists_prints_execute (options : Options) (selection : List Suite) (target : Target)
    (scene : Scene) : ∃ bs r, (execute options selection target).Prints scene bs r := by
  match selection with
  | [] => exact ⟨[], _, Silent.prints fun _ => rfl⟩
  | [suite] =>
      rw [execute_single]
      refine Silent.bind_prints (fun _ => rfl) fun _ scene' => ?_
      refine (silent_runSuite options suite scene').bind_prints fun ran scene'' => ?_
      exact exists_prints_conclude options target ran scene''
  | _ :: _ :: _ => exact ⟨[], _, Silent.prints fun _ => rfl⟩

/-- What the options ask for when suites have been selected. -/
def work (options : Options) (selection : List Suite) : Act ExitCode :=
  if options.printNames then do
    print (unlines (nameList options.printTypes selection))
    pure .success
  else if options.printTypeList then do
    print (unlines typeList)
    pure .success
  else do
    let target ← openOutput options.output
    execute options selection target

theorem exists_prints_work (options : Options) (selection : List Suite) (scene : Scene) :
    ∃ bs r, (work options selection).Prints scene bs r := by
  unfold work
  split
  · exact ⟨_, _, (prints_print _).bind_silent (fun _ => rfl) (.refl _)⟩
  · split
    · exact ⟨_, _, (prints_print _).bind_silent (fun _ => rfl) (.refl _)⟩
    · exact (silent_openOutput options.output scene).bind_prints fun target scene' =>
        exists_prints_execute options selection target scene'

end Act

/-- The line that names the temporary directory, if it is asked for. -/
def Options.announcement (options : Options) : String :=
  if options.printTempDir then options.tempDir.text ++ "\n" else ""

/-- The scene once suites have been selected. -/
def Scene.selecting (scene : Scene) (options : Options) (suites : Registry) : Scene :=
  let registered : Record := .info (toString suites.length ++ " suites registered")
  { scene with
    world := (scene.world.logAll [registered]).logAll (suites.selectRecords options.filter) }

/-- Suites are selected, the temporary directory is announced, and the rest follows. -/
theorem invoke_eq (options : Options) (suites : Registry) (scene : Scene) :
    invoke options suites scene =
      (do Act.print options.announcement; Act.work options (suites.select options.filter))
        (scene.selecting options suites) := by
  have announced : Act.print options.announcement =
      if options.printTempDir then Act.print (options.tempDir.text ++ "\n") else pure () := by
    unfold Options.announcement
    cases options.printTempDir with
    | true => rfl
    | false => exact Act.print_empty
  rw [announced]
  unfold invoke
  cases options.printTempDir <;> rfl

section

variable (options : Options) (suites : Registry) (scene : Scene)

/-- What an invocation comes to on a console that is too small for the announcement. -/
theorem invoke_of_unannounced {console : Sink}
    (short : console.takes (Sink.bytes options.announcement) = false) :
    invoke options suites { scene with console } = .error (.failed (.report Sink.full))
      { scene.selecting options suites with
        console := console.after (Sink.bytes options.announcement) } := by
  rw [invoke_eq]
  exact bind_of_error (Act.print_of_short short)

theorem invoke_of_announced {console : Sink}
    (fits : console.takes (Sink.bytes options.announcement) = true) :
    invoke options suites { scene with console } =
      Act.work options (suites.select options.filter)
        { scene.selecting options suites with
          console := console.after (Sink.bytes options.announcement) } := by
  rw [invoke_eq]
  exact bind_of_ok (Act.print_of_takes fits)

/-- On any console an invocation prints as much of its text as there is room for. If there is room
for all of it, the result does not depend on the console; otherwise printing fails, and the work
has been done unless there was no room for the announcement. -/
theorem exists_text_of_invoke : ∃ rest r, ∀ console : Sink,
    let text := Sink.bytes options.announcement ++ rest
    let x := invoke options suites { scene with console }
    (Act.sceneOf x).console = console.after text ∧
      Act.valueOf x = (if console.takes text then Act.valueOf r
        else .error (.failed (.report Sink.full))) ∧
      (if console.takes (Sink.bytes options.announcement) then Act.sceneOf r
        else scene).SameWork (Act.sceneOf x) := by
  obtain ⟨rest, r, prints⟩ := Act.exists_prints_work options (suites.select options.filter)
    (scene.selecting options suites)
  refine ⟨rest, r, fun console => ?_⟩
  dsimp only
  have selected : scene.SameWork (scene.selecting options suites) := ⟨scene.console, _, rfl⟩
  cases announced : console.takes (Sink.bytes options.announcement) with
  | false =>
      rw [invoke_of_unannounced options suites scene announced, Sink.takes_append,
        Sink.after_append, Sink.after_of_full announced, announced]
      exact ⟨rfl, rfl, selected.trans ⟨_, _, rfl⟩⟩
  | true =>
      rw [invoke_of_announced options suites scene announced, Sink.takes_append,
        Sink.after_append, announced, Bool.true_and]
      cases fits : (console.after (Sink.bytes options.announcement)).takes rest with
      | true =>
          rw [prints.whole _ fits]
          cases r with
          | ok code after => exact ⟨rfl, rfl, _, _, rfl⟩
          | error stop after => exact ⟨rfl, rfl, _, _, rfl⟩
      | false =>
          obtain ⟨scene', failed, room, same⟩ := prints.cut _ fits
          rw [failed]
          exact ⟨room, rfl, same⟩

end

/-- A console that fills up loses a suffix of what is printed, and nothing else. It makes no
difference in which pieces a text is printed, and a report may be printed on the way through its
entries. The whole text is what a console without limit gets. With less room than that for the
text, the console gets its beginning and printing fails; but all hooks are called as they are
otherwise, and the scene is the same beside console and log, if there is room for the announcement.
If there is none, nothing has been done. -/
theorem invoke_cut_off (options : Options) (suites : Registry) (scene : Scene) (room : Nat) :
    (∀ pieces, Act.printEach pieces = Act.print (String.join pieces)) ∧
    (∀ format level v, Act.printView format level v =
      Act.print (Report.unlines (Report.lines format level v))) ∧
    let free := invoke options suites { scene with console := { scene.console with room := none } }
    let cut :=
      invoke options suites { scene with console := { scene.console with room := some room } }
    ∃ rest : List UInt8,
      let text := Sink.bytes options.announcement ++ rest
      (Act.sceneOf free).console.written = scene.console.written ++ text ∧
      (Act.sceneOf cut).console.written = scene.console.written ++ text.take room ∧
      Act.valueOf cut =
        (if text.length ≤ room then Act.valueOf free
          else .error (.failed (.report Sink.full))) ∧
      (if (Sink.bytes options.announcement).length ≤ room then Act.sceneOf free
        else scene).SameWork (Act.sceneOf cut) := by
  refine ⟨Act.printEach_eq, fun format level v => ?_, ?_⟩
  · rw [Act.printView_eq, Act.printLines_eq]
  intro free cut
  obtain ⟨rest, r, outcome⟩ := exists_text_of_invoke options suites scene
  obtain ⟨written, value, work⟩ := outcome { scene.console with room := none }
  obtain ⟨written', value', work'⟩ := outcome { scene.console with room := some room }
  refine ⟨rest, congrArg Sink.written written, congrArg Sink.written written', ?_, ?_⟩
  · rw [value', value]
    simp [Sink.takes]
  · -- Beside console and log, both scenes are the one that the result of the work holds.
    simp only [Sink.takes, Option.all_none, Option.all_some, decide_eq_true_eq, if_true]
      at work work'
    split at work'
    · next fits =>
      rw [if_pos fits]
      exact work.symm.trans work'
    · next short =>
      rwa [if_neg short]

end SuiteTree
