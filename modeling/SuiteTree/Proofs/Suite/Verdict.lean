import Mathlib.Data.List.Nodup
import SuiteTree.Proofs.Run.Accounts
import SuiteTree.Proofs.Run.Schedule
import SuiteTree.Proofs.Run.Settled
import SuiteTree.Proofs.Suite.Execute

/-!
# The verdict on a suite

The exit code of an execution and the status of the root in the report both say whether any hook
reported a failure. Success also means that nothing was left out: every node that hangs together
with the root has been run to its end, and each of its hooks was called once.

The exit code is read off the root, and a node is failed after its visit exactly if something was
reported in the visit, so the first part needs no induction of its own. The second part does: as
long as nothing is reported, no child is abandoned.
-/

namespace SuiteTree

section Quiet

variable {t : Tree} {n : NodeId} {phase : Phase} {es : List Event}

theorem HookCall.mem_calls (call : HookCall t n phase es) (hooked : (t.get n).hooked = true) :
    (n, phase) ∈ es.filterMap Event.call? := by
  cases call with
  | called _ own => exact List.mem_filterMap.2 ⟨_, .tail _ (.head _), rfl⟩
  | silent bare =>
      rw [hooked] at bare
      cases bare

theorem Opening.mem_calls (opening : Opening t n es) (hooked : (t.get n).hooked = true) :
    (n, .setup) ∈ es.filterMap Event.call? := by
  cases opening with
  | mk call =>
      have same : ((t.beginResult n).get n).hooked = (t.get n).hooked :=
        Tree.hooked_eq_of_pristine (Tree.pristine_beginResult t n) n
      rw [List.filterMap_cons_none rfl, List.filterMap_append]
      exact List.mem_append_left _ (call.mem_calls (same.trans hooked))

theorem OwnRun.mem_calls (own : OwnRun t n false es) (hooked : (t.get n).hooked = true) :
    (n, .run) ∈ es.filterMap Event.call? := by
  cases own with
  | reached call => exact call.mem_calls hooked

theorem Leaving.mem_calls (leaving : Leaving t n es) (hooked : (t.get n).hooked = true) :
    (n, .teardown) ∈ es.filterMap Event.call? := by
  cases leaving with
  | @mk elapsed _ call =>
      have same : ((t.setElapsed n elapsed).get n).hooked = (t.get n).hooked :=
        Tree.hooked_eq_of_pristine (Tree.pristine_setElapsed t n elapsed) n
      rw [List.filterMap_cons_none rfl, List.filterMap_append]
      exact List.mem_append_left _ (call.mem_calls (same.trans hooked))

private theorem called_stepwise : Stepwise
    (fun t n es => reports es = [] → ∀ m, n ∈ t.ancestors m → (t.get m).hooked = true →
      ∀ phase, (m, phase) ∈ es.filterMap Event.call?)
    (fun t _ cs es abandoned => abandoned = false → ∀ c ∈ cs, ∀ m, c ∈ t.ancestors m →
      (t.get m).hooked = true → ∀ phase, (m, phase) ∈ es.filterMap Event.call?) where
  visit {t n a b c d abandoned} wf inside opening descent below own leaving := by
    intro none m up hooked phase
    simp only [reports_append, List.append_eq_nil_iff] at none
    obtain ⟨quietA, quietB, -, -⟩ := none
    have whole := descent.not_abandoned opening wf inside quietA quietB
    subst whole
    simp only [List.filterMap_append, List.mem_append]
    by_cases same : m = n
    · subst same
      cases phase with
      | setup => exact .inl (opening.mem_calls hooked)
      | run => exact .inr (.inr (.inl (own.mem_calls (by simpa using hooked))))
      | teardown => exact .inr (.inr (.inr (leaving.mem_calls (by simpa using hooked))))
    · obtain ⟨k, child, up'⟩ := wf.exists_child_of_mem_ancestors up (Ne.symm same)
      exact .inr (.inl (below rfl k child m (by simpa using up') (by simpa using hooked) phase))
  done _ _ := by simp
  stopped _ _ _ _ _ _ := by simp
  next {t n c rest a b abandoned} wf inside last visit below passed descent beside := by
    have child : c ∈ (t.get n).children := last.mem List.mem_cons_self
    intro whole k mem m up hooked phase
    rw [List.filterMap_cons_none rfl, List.filterMap_append, List.mem_append]
    obtain rfl | mem := List.mem_cons.1 mem
    · exact .inl (below (visit.quiet_of_passed wf child passed) m up hooked phase)
    · exact .inr (beside whole k mem m (by simpa using up) (by simpa using hooked) phase)

/-- If nothing is reported in a visit, every hook of the subtree is called in it once. -/
theorem Visit.count_calls (visit : Visit t n es) (wf : t.WellFormed) (inside : n < t.size)
    (none : reports es = []) {m : NodeId} (up : n ∈ t.ancestors m)
    (hooked : (t.get m).hooked = true) (phase : Phase) :
    (es.filterMap Event.call?).count (m, phase) = 1 := by
  have called := called_stepwise.of_visit wf inside visit none m up hooked phase
  exact List.count_eq_one_of_mem (visit.nodup_calls wf inside) called

end Quiet

/-- The report begins with the name and the status of the root. -/
def Report.Begins (format : Format) (name status text : String) : Prop :=
  match format with
  | .text _ => ∃ rest, text = status ++ " " ++ name ++ " " ++ rest
  | .xml => ∃ rest, text = "<Test>\n  <Name>" ++ Text.escape name ++ "</Name>\n  <Result>" ++ status
      ++ "</Result>\n" ++ rest

/-- A report of an entry shows the name and the status of the entry first. -/
theorem Report.begins_entry (format : Format) (e : Entry) (below : View) :
    Begins format e.name e.status (unlines (lines format 0 (.entry e below .nil))) := by
  have flush : indent 0 = "" := rfl
  have deeper : indent 1 = "  " := rfl
  cases format with
  | text verbose =>
      simp only [Begins, lines, View.textLines, unlines, List.map_cons, String.join_cons,
        Entry.textLine, flush, String.empty_append, String.append_assoc]
      exact ⟨_, rfl⟩
  | xml =>
      have first : e.xmlHead 0 = openTag 0 "Test" :: element 1 "Name" (Text.escape e.name) ::
          element 1 "Result" e.status :: (e.timeTag 1 :: e.failures.flatMap (failureLines 2)) := rfl
      have head : "<" ++ ("Test" ++ (">" ++ ("\n" ++ ("  " ++ ("<" ++ ("Name" ++ ">")))))) =
          "<Test>\n  <Name>" := rfl
      have next : "</" ++ ("Name" ++ (">" ++ ("\n" ++ ("  " ++ ("<" ++ ("Result" ++ ">")))))) =
          "</Name>\n  <Result>" := rfl
      have last : "</" ++ ("Result" ++ (">" ++ "\n")) = "</Result>\n" := rfl
      simp only [Begins, lines, View.xmlLines, first, List.cons_append, unlines, List.map_cons,
        String.join_cons, openTag, element, flush, deeper, String.empty_append, ← head, ← next,
        ← last, String.append_assoc]
      exact ⟨_, rfl⟩

/-- The report of a suite that has been run begins with the name and the status of its root. -/
theorem Act.begins_reportOf (options : Options) (ran : Suite)
    (known : (ran.tree.get Tree.root).result.isSome) :
    Report.Begins (.ofOptions options) ran.name (if ran.isFailed then "FAIL" else "PASS")
      (Act.reportOf options ran) := by
  obtain ⟨r, result⟩ := Option.isSome_iff_exists.1 known
  have shown : Report.view (ran.tree.outline Tree.root) = .entry (.ofResult ran.name r)
      (Report.view (ran.tree.outlineOf (ran.tree.below Tree.root))) .nil := by
    simp only [Tree.outline, Tree.outlineOf, Report.view, Node.facts, result]
    rfl
  have failed : ran.isFailed = r.isFailed := by rw [Suite.isFailed, Tree.isFailed, result]
  rw [Act.reportOf, Report.render, shown, failed]
  exact Report.begins_entry _ (.ofResult ran.name r) _

/-- Unless reports end the process, hooks can only exit. -/
theorem Program.not_halts_aborted {options : Options} (stays : options.assertOnFailure = false)
    {p : Program Unit} : ¬ p.Halts options .aborted := by
  intro halts
  induction halts with
  | @now request next halts =>
      cases request with
      | fail failure => exact Bool.false_ne_true (stays.symm.trans halts)
      | _ => exact halts
  | later reply _ ih => exact ih

/-- What an execution comes to, if `es` are the events of its run: exit code and report say whether
a failure was reported, and success leaves nothing out. -/
structure Verdict (options : Options) (suite : Suite) (target : Target) (before : Scene)
    (es : List Event) (code : ExitCode) (after : Scene) : Prop where
  code_eq : code = if (reports es).isEmpty then .success else .failure
  status : ∃ text, target.Received text before after ∧
    Report.Begins (.ofOptions options) suite.name (if (reports es).isEmpty then "PASS" else "FAIL")
      text
  complete : code = .success → ∃ ran, after.finished = before.finished ++ [ran] ∧
    ∀ n, Tree.root ∈ suite.tree.ancestors n → (ran.tree.get n).stage = .done ∧
      ∀ phase, (es.filterMap Event.call?).count (n, phase) = 1

/-- The verdict that a finished run leads to. -/
theorem Visit.verdict {suite : Suite} {es : List Event} {s : State} {target : Target}
    {scene : Scene} (visit : Visit suite.tree Tree.root es) (reach : suite.tree.Reachable)
    (ext : (suite.startIn scene).Extends es s) (options : Options)
    (accepts : target.Accepts scene) :
    ∃ code after, Act.conclude options target { suite with tree := s.tree }
        (scene.afterRun { suite with tree := s.tree } s.world) = .ok code after ∧
      after.world.events = s.world.events ∧
      Verdict options suite target scene es code after := by
  have wf := reach.wellFormed
  have tree : s.tree = suite.tree.replay es := ext.tree
  have failed : Suite.isFailed { suite with tree := s.tree } = !(reports es).isEmpty := by
    rw [Bool.eq_iff_iff, Suite.isFailed]
    show s.tree.isFailed Tree.root = true ↔ _
    rw [tree, visit.isFailed_self wf wf.root_lt_size]
    simp
  have accepts' : target.Accepts (scene.afterRun { suite with tree := s.tree } s.world) := by
    cases target with
    | console => exact accepts
    | file location append => exact ext.lasts.files location accepts
  obtain ⟨after, result, received, finished, events⟩ :=
    Act.conclude_of_accepts options { suite with tree := s.tree } accepts'
  refine ⟨_, after, result, events, ?_, ?_, ?_⟩
  · rw [Act.codeOf, failed]
    cases (reports es).isEmpty <;> rfl
  · have known : (s.tree.get Tree.root).result.isSome := by
      rw [tree]
      exact (visit.finished wf wf.root_lt_size).2
    have name : Suite.name { suite with tree := s.tree } = suite.name := by
      have same : s.tree.pristine = suite.tree.pristine := by rw [tree, Tree.pristine_replay]
      exact (congrArg Node.name (Tree.pristine_get same Tree.root) :)
    have begins := Act.begins_reportOf options { suite with tree := s.tree } known
    rw [failed, name] at begins
    refine ⟨_, received, ?_⟩
    cases h : (reports es).isEmpty <;> simpa [h] using begins
  · intro success
    have none : reports es = [] := by
      rw [Act.codeOf, failed] at success
      cases h : (reports es).isEmpty with
      | true => exact List.isEmpty_iff.1 h
      | false =>
          rw [h] at success
          cases success
    refine ⟨{ suite with tree := s.tree }, finished, ?_⟩
    intro n attached
    have passed := visit.passed wf wf.root_lt_size none n attached
    rw [← tree] at passed
    refine ⟨passed.1, fun phase => ?_⟩
    exact visit.count_calls wf wf.root_lt_size none attached (reach.hooked_of_attached attached)
      phase

/-- What an execution of a suite comes to: `Q` holds of the exit code, of the scene after it and of
the events if it gives an exit code, and `H` of the events so far if a hook ends the process. -/
def Suite.AfterExecution (suite : Suite) (options : Options) (target : Target) (scene : Scene)
    (Q : ExitCode → Scene → List Event → Prop) (H : Halt → List Event → Prop) : Prop :=
  match execute options [suite] target scene with
  | .ok code after => ∃ es, after.world.events.toList = scene.world.events.toList ++ es ∧
      Q code after es
  | .error (.halted how) after => ∃ es,
      after.world.events.toList = scene.world.events.toList ++ es ∧ H how es
  | .error (.failed _) _ => False

/-- The verdict is sound and complete. Unless a hook exits by itself, an execution of a suite gives
the exit code for failure if any hook reported a failure, and that for success otherwise, and the
report says the same of the root. After success every attached node is done, and each of its hooks
was called once. -/
theorem execute_verdict {suite : Suite} (reach : suite.tree.Reachable) {options : Options}
    (stays : options.assertOnFailure = false) {target : Target} {scene : Scene}
    (accepts : target.Accepts scene) :
    suite.AfterExecution options target scene
      (fun code after es => Verdict options suite target scene es code after)
      (fun how es => (∃ code, how = .exited code) ∧
        EndsInHook options suite.hooksOf how es) := by
  have wf := reach.wellFormed
  have emits : (runNode options suite.hooksOf Tree.root).Emits (suite.startIn scene) _ _ :=
    emits_runNode wf
  unfold Run.Emits at emits
  unfold Suite.AfterExecution
  cases result : runNode options suite.hooksOf Tree.root (suite.startIn scene) with
  | ok _ s =>
      rw [result] at emits
      obtain ⟨es, ext, visit⟩ := emits
      obtain ⟨code, after, concluded, events, verdict⟩ := visit.verdict reach ext options accepts
      rw [execute_of_ended result, concluded]
      exact ⟨es, by rw [events]; exact ext.events, verdict⟩
  | error how s =>
      rw [result] at emits
      obtain ⟨es, events, ends, -⟩ := emits
      rw [execute_of_halted result]
      refine ⟨es, events, ?_, ends⟩
      cases how with
      | exited code => exact ⟨code, rfl⟩
      | aborted =>
          obtain ⟨_, n, phase, _, _, _, _, halts⟩ := ends
          exact absurd halts (Program.not_halts_aborted stays)

/-- The teardown of the second of two cases fails, and so does the execution. -/
theorem failing_teardown_verdict :
    let failing : Program Unit := .request (.fail ⟨"a < b", "2", "1", "", "suite.rs", 7⟩)
    let suite : Suite := ⟨.unit, Tree.twoCases, #[.idle, .idle, { teardown := failing }]⟩
    let scene : Scene := { world := {} }
    suite.tree.Reachable ∧ ({} : Options).assertOnFailure = false ∧
      Target.console.Accepts scene ∧
      suite.AfterExecution {} .console scene
        (fun code after es => Verdict {} suite .console scene es code after)
        (fun how es => (∃ code, how = .exited code) ∧ EndsInHook {} suite.hooksOf how es) ∧
      ∃ after, execute {} [suite] .console scene = .ok .failure after := by
  intro failing suite scene
  have reach : suite.tree.Reachable := Tree.twoCases_reachable
  refine ⟨reach, rfl, rfl, execute_verdict reach rfl rfl, ?_⟩
  obtain ⟨s, ended, failed⟩ : ∃ s, runNode {} suite.hooksOf Tree.root (suite.startIn scene) =
      .ok () s ∧ s.tree.isFailed Tree.root = true :=
    exists_ended_of_eval _ Tree.twoCases_below (by decide +kernel)
  let ran : Suite := { suite with tree := s.tree }
  have accepts : Target.console.Accepts (scene.afterRun ran s.world) := rfl
  have code : Act.codeOf ran = .failure := if_pos failed
  obtain ⟨after, concluded, -⟩ := Act.conclude_of_accepts {} ran accepts
  rw [execute_of_ended ended, concluded, code]
  exact ⟨after, rfl⟩

end SuiteTree
