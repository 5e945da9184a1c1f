import SuiteTree.Proofs.Run.Settled
import SuiteTree.Proofs.Run.Shortening
import SuiteTree.Proofs.Suite.Execute
import SuiteTree.Proofs.Tree.Reachable
import SuiteTree.Session

/-!
# Stopping at failures does not change the exit code

Going on after failures or stopping at them makes a difference only to what the hooks of a suite
report. Where nothing is reported the reports are equal to the letter, and where anything is, the
exit code is that for failure whether or not the report can be written.
-/

namespace SuiteTree

/-- How a process ends whose execution has this result. -/
def Ending.ofResult : EStateM.Result Stop Scene ExitCode → Ending
  | .ok code _ => .exited code.code
  | .error (.failed cause) _ => .exited cause.exitCode.code
  | .error (.halted how) _ => .ofHalt how

/-- The target has room for the text. -/
def Target.takes (target : Target) (console : Sink) (text : String) : Bool :=
  match target with
  | .console => (console.put text).1.isOk
  | .file _ _ => true

section Ending

variable {options : Options} {target : Target} {ran : Suite} {scene : Scene}

/-- After a run the process ends with success exactly if the root has passed and the report could be
written. -/
theorem Act.ending_conclude :
    Ending.ofResult (Act.conclude options target ran scene) =
      .exited (if target.takes scene.console (Act.reportOf options ran) && !ran.isFailed
        then ExitCode.success.code else ExitCode.failure.code) := by
  have code : (Act.codeOf ran).code =
      if !ran.isFailed then ExitCode.success.code else ExitCode.failure.code := by
    rw [Act.codeOf]
    cases ran.isFailed <;> rfl
  cases target with
  | file location append =>
      obtain ⟨journal, concluded⟩ := Act.conclude_file options location append ran scene
      rw [concluded, Ending.ofResult, Target.takes, Bool.true_and, code]
  | console =>
      obtain ⟨journal, concluded⟩ := Act.conclude_console options ran scene
      rw [concluded, Target.takes]
      cases scene.console.put (Act.reportOf options ran) with
      | mk result console =>
          cases result with
          | error cause => rfl
          | ok _ => exact congrArg Ending.exited code

end Ending

section TwoRuns

variable {suite : Suite} {options : Options} {scripts : NodeId → Phase → Script} {s u : State}
  {a : State} {n : NodeId}

/-- Numbers that no node has are answered in the same way in both runs as well. -/
theorem InStep.bearing_eq (inStep : InStep scripts a a s u) (n : NodeId) :
    (u.tree.get n).bearing = (s.tree.get n).bearing := by
  by_cases inside : n < a.tree.size
  · exact inStep.agree n inside
  · obtain ⟨left, right⟩ := inStep.pristine
    have outside := Nat.not_lt.1 inside
    have none : s.tree.get n = default :=
      Tree.get_of_size_le (by rwa [Tree.size_eq_of_pristine left])
    have none' : u.tree.get n = default :=
      Tree.get_of_size_le (by rwa [Tree.size_eq_of_pristine right])
    rw [none, none']

theorem InStep.isFailed_eq (inStep : InStep scripts a a s u) (n : NodeId) :
    u.tree.isFailed n = s.tree.isFailed n := by
  rw [Tree.isFailed_eq_any, Tree.isFailed_eq_any, Node.isFailed_of_bearing,
    Node.isFailed_of_bearing, inStep.bearing_eq n]

theorem InStep.isPassing_eq (inStep : InStep scripts a a s u) (n : NodeId) :
    u.tree.isPassing n = s.tree.isPassing n := by
  rw [Tree.isPassing_eq_all, Tree.isPassing_eq_all, Node.isPassing_of_bearing,
    Node.isPassing_of_bearing, inStep.bearing_eq n]

/-- A node without failures at or below it is the same in both runs. -/
theorem InStep.facts_eq (inStep : InStep scripts a a s u) (passed : s.tree.isFailed n = false) :
    (u.tree.get n).facts = (s.tree.get n).facts := by
  have lasting : (u.tree.get n).pristine = (s.tree.get n).pristine := by
    obtain ⟨left, right⟩ := inStep.pristine
    exact Tree.pristine_get (right.trans left.symm) n
  have stage : (u.tree.get n).stage = (s.tree.get n).stage :=
    congrArg Prod.fst (inStep.bearing_eq n)
  rw [Tree.isFailed_eq_any] at passed
  have result := Node.result_eq_of_bearing (inStep.bearing_eq n) passed
  simp only [Node.facts, Facts.mk.injEq]
  exact ⟨(congrArg Node.name lasting :), (congrArg Node.duration lasting :),
    (congrArg Node.dataDir lasting :), stage, result⟩

/-- If nothing failed, the two runs leave the same outline behind. -/
theorem InStep.outline_eq (inStep : InStep scripts a a s u) (wf : a.tree.WellFormed)
    {es : List Event} (visit : Visit a.tree Tree.root es) (tree : s.tree = a.tree.replay es)
    (passed : s.tree.isFailed Tree.root = false) :
    u.tree.outline Tree.root = s.tree.outline Tree.root := by
  have none : reports es = [] := by
    by_contra some
    rw [tree] at passed
    exact Bool.false_ne_true (passed.symm.trans ((visit.isFailed_self wf wf.root_lt_size).2 some))
  have agree : Tree.Agree Node.facts id (Tree.root ∈ s.tree.ancestors ·) s.tree u.tree := by
    intro m attached
    refine inStep.facts_eq ?_
    rw [tree, Tree.ancestors_replay] at attached
    rw [tree]
    exact (visit.passed wf wf.root_lt_size none m attached).2
  have below : u.tree.below Tree.root = s.tree.below Tree.root := by
    obtain ⟨left, right⟩ := inStep.pristine
    exact Tree.below_eq_of_pristine (right.trans left.symm) Tree.root
  have wf' : s.tree.WellFormed := tree ▸ wf.replay es
  have same := agree.outlineOf (.node Tree.root (s.tree.below Tree.root) .nil) ?_
  · rw [Forest.map_id] at same
    rw [Tree.outline, Tree.outline, below, same]
  · intro m mem
    exact wf'.mem_preorder_iff.1 (by simpa [Forest.preorder, Tree.preorder] using mem)

end TwoRuns

/-- The states in which two runs end that begin in state `a`: all nodes are in the same stage, have
passed or failed alike, and the same hooks were called. -/
structure EndAlike (scripts : NodeId → Phase → Script) (a s u : State) : Prop where
  stage : ∀ n, (u.tree.get n).stage = (s.tree.get n).stage
  isFailed : ∀ n, u.tree.isFailed n = s.tree.isFailed n
  isPassing : ∀ n, u.tree.isPassing n = s.tree.isPassing n
  events : ∃ es es', s.world.events.toList = a.world.events.toList ++ es ∧
    u.world.events.toList = a.world.events.toList ++ es' ∧
    es'.filterMap Event.call? = es.filterMap Event.call? ∧ Shortened scripts es es'

theorem InStep.endAlike {scripts : NodeId → Phase → Script} {a s u : State}
    (inStep : InStep scripts a a s u) : EndAlike scripts a s u where
  stage n := congrArg Prod.fst (inStep.bearing_eq n)
  isFailed := inStep.isFailed_eq
  isPassing := inStep.isPassing_eq
  events := by
    obtain ⟨es, es', ext, ext', shortened⟩ := inStep.course
    exact ⟨es, es', ext.events, ext'.events, shortened.calls, shortened⟩

/-- Stopping at failures only shortens hooks. If all hooks of a suite are scripts, a run that stops
at failures calls the same hooks as one that goes on after them and leaves all nodes in the same
stages, passed or failed alike; each hook reports what it reports in the other run up to the first
check that does not hold; and the exit code of an execution is the same. -/
theorem stopping_only_shortens_hooks {suite : Suite} (reach : suite.tree.Reachable)
    {scripts : NodeId → Phase → Script}
    (scripted : ∀ n phase, (suite.hooksOf n).at phase = (scripts n phase).program)
    (options : Options) :
    (∀ world : World,
      (runNode { options with continueOnFailure := true } suite.hooksOf Tree.root).Together
        (runNode { options with continueOnFailure := false } suite.hooksOf Tree.root)
        ⟨suite.tree, world⟩ ⟨suite.tree, world⟩
        (fun _ _ => EndAlike scripts ⟨suite.tree, world⟩)
        (StoppedInStep options ⟨suite.tree, world⟩ ⟨suite.tree, world⟩)) ∧
    ∀ (target : Target) (scene : Scene),
      Ending.ofResult (execute { options with continueOnFailure := false } [suite] target scene) =
        Ending.ofResult
          (execute { options with continueOnFailure := true } [suite] target scene) := by
  have wf := reach.wellFormed
  constructor
  · intro world
    apply (together_runNode_of_scripts options wf wf.root_lt_size scripted world).mono
    intro _ _ s u inStep
    exact inStep.endAlike
  · intro target scene
    have together := together_runNode_of_scripts options wf wf.root_lt_size scripted
      (suite.startIn scene).world
    unfold Run.Together at together
    split at together
    · next _ s _ u full short =>
      obtain ⟨es, ext, visit⟩ := exists_visit_of_ended wf full
      rw [execute_of_ended short, execute_of_ended full, Act.ending_conclude, Act.ending_conclude]
      have same : Suite.isFailed { suite with tree := u.tree } =
          Suite.isFailed { suite with tree := s.tree } := together.isFailed_eq Tree.root
      rw [same]
      cases failed : Suite.isFailed { suite with tree := s.tree } with
      | true => simp
      | false =>
          have outline := together.outline_eq wf visit ext.tree failed
          simp only [Act.reportOf, outline]
          rfl
    · next full short =>
      obtain ⟨rfl, -⟩ := together
      rw [execute_of_halted short, execute_of_halted full]
      rfl
    · exact together.elim

/-- A setup hook with an expectation and a requirement that do not hold, and a failure reported
between them. -/
theorem failing_setup_only_shortened :
    let failure (line : Nat) : Failure := ⟨"a < b", "2", "1", "", "suite.rs", line⟩
    let script : Script := [.check ⟨false, failure 7, false⟩, .report (failure 8),
      .ambient .drawStream, .check ⟨false, failure 9, true⟩, .report (failure 10)]
    let scripts : NodeId → Phase → Script := fun n phase =>
      if n = 0 ∧ phase = .setup then script else []
    let suite : Suite := ⟨.unit, Tree.twoCases, #[{ setup := script.program }]⟩
    suite.tree.Reachable ∧
    (∀ n phase, (suite.hooksOf n).at phase = (scripts n phase).program) ∧
    (∀ world : World,
      (runNode { continueOnFailure := true } suite.hooksOf Tree.root).Together
        (runNode { continueOnFailure := false } suite.hooksOf Tree.root)
        ⟨suite.tree, world⟩ ⟨suite.tree, world⟩
        (fun _ _ => EndAlike scripts ⟨suite.tree, world⟩)
        (StoppedInStep {} ⟨suite.tree, world⟩ ⟨suite.tree, world⟩)) ∧
    ∀ (target : Target) (scene : Scene),
      Ending.ofResult (execute { continueOnFailure := false } [suite] target scene) =
        Ending.ofResult (execute { continueOnFailure := true } [suite] target scene) := by
  intro failure script scripts suite
  have reach : suite.tree.Reachable := Tree.twoCases_reachable
  have scripted : ∀ n phase, (suite.hooksOf n).at phase = (scripts n phase).program := by
    intro n phase
    cases n with
    | zero => cases phase <;> rfl
    | succ n => cases phase <;> simp [suite, scripts, Suite.hooksOf, Hooks.at, Hooks.idle] <;> rfl
  exact ⟨reach, scripted, stopping_only_shortens_hooks reach scripted {}⟩

end SuiteTree
