import SuiteTree.Builtin.Sample
import SuiteTree.Proofs.Run.Observation
import SuiteTree.Proofs.Suite.Execute
import SuiteTree.Proofs.Suite.Thinning

/-!
# Pruned cases might as well not exist

A suite is pruned before it is run, and its pruned cases stay in the tree without being reached. A
run of the pruned suite, its report, its places among the files and its result are those of the
suite in which the cases were never made.
-/

namespace SuiteTree

/-- Select suites and execute the selection. -/
def Act.executeSelected (options : Options) (suites : Registry) (filter : Filter)
    (target : Target) : Act ExitCode := do
  Act.logAll (suites.selectRecords filter)
  execute options (suites.select filter) target

/-- What the suites that were run tell of their nodes. -/
def Scene.outlines (scene : Scene) : List Outline :=
  scene.finished.map (·.tree.outline Tree.root)

/-- The reports on the suites that were run. -/
def Scene.reports (scene : Scene) (format : Report.Format) (level : Nat) : List String :=
  scene.outlines.map (Report.render format level)

/-- What happened to which nodes, by their names. -/
def deedsByName (t : Tree) (es : List Event) : List (Deed String) :=
  (deeds es).map (Deed.map fun n => (t.get n).name)

/-- The nodes below the root with their data directories and their paths. -/
def Tree.places (t : Tree) : List (String × Option String × List String) :=
  (t.preorder Tree.root).map fun n => ((t.get n).name, t.dataDir n, t.pathNames n)

/-- Executions of suites with the trees `t` and `u` that begin in the same scene cannot be told
apart by what they do and by what they leave behind. -/
structure SameExecution (t u : Tree) (before : Scene)
    (x y : EStateM.Result Stop Scene ExitCode) : Prop where
  value : Act.valueOf y = Act.valueOf x
  /-- The same hooks of nodes of the same names were called; they asked the same, and were told the
  same. -/
  deeds : ∃ es es',
    (Act.sceneOf x).world.events.toList = before.world.events.toList ++ es ∧
    (Act.sceneOf y).world.events.toList = before.world.events.toList ++ es' ∧
    deedsByName u es' = deedsByName t es
  /-- The trees that were run tell the same of their nodes. -/
  outlines : (Act.sceneOf y).outlines = (Act.sceneOf x).outlines
  reports : ∀ (format : Report.Format) (level : Nat),
    (Act.sceneOf y).reports format level = (Act.sceneOf x).reports format level
  console : (Act.sceneOf y).console = (Act.sceneOf x).console
  /-- The logs differ, and so do log files. -/
  files : before.logFile = none → (Act.sceneOf y).world.files = (Act.sceneOf x).world.files

section Conclusion

variable (options : Options) (target : Target) {ran ran' : Suite} {scene scene' : Scene}

theorem Scene.outlines_afterRun (scene : Scene) (ran : Suite) (world : World) :
    (scene.afterRun ran world).outlines = scene.outlines ++ [ran.tree.outline Tree.root] := by
  rw [outlines, afterRun, List.map_append, List.map_singleton, outlines]

/-- The conclusion is no event, and it runs no suite. -/
theorem Act.conclude_keeps (ran : Suite) (scene : Scene) :
    (Act.sceneOf (Act.conclude options target ran scene)).finished = scene.finished ∧
      (Act.sceneOf (Act.conclude options target ran scene)).world.events = scene.world.events := by
  cases target with
  | file location append =>
      obtain ⟨journal, concluded⟩ := Act.conclude_file options location append ran scene
      rw [concluded]
      exact scene.settleLog_keeps.2
  | console =>
      obtain ⟨journal, concluded⟩ := Act.conclude_console options ran scene
      rw [concluded]
      split <;> exact ⟨rfl, rfl⟩

/-- Suites that tell the same are concluded in the same way. -/
theorem Act.conclude_same (outline : ran'.tree.outline Tree.root = ran.tree.outline Tree.root)
    (failed : ran'.isFailed = ran.isFailed) (console : scene'.console = scene.console) :
    Act.valueOf (Act.conclude options target ran' scene') =
        Act.valueOf (Act.conclude options target ran scene) ∧
      (Act.sceneOf (Act.conclude options target ran' scene')).console =
        (Act.sceneOf (Act.conclude options target ran scene)).console ∧
      (scene.logFile = none → scene'.logFile = none → scene'.world.files = scene.world.files →
        (Act.sceneOf (Act.conclude options target ran' scene')).world.files =
          (Act.sceneOf (Act.conclude options target ran scene)).world.files) := by
  have text : Act.reportOf options ran' = Act.reportOf options ran := by
    rw [Act.reportOf, Act.reportOf, outline]
  have code : Act.codeOf ran' = Act.codeOf ran := by rw [Act.codeOf, Act.codeOf, failed]
  cases target with
  | file location append =>
      obtain ⟨journal, concluded⟩ := Act.conclude_file options location append ran scene
      obtain ⟨journal', concluded'⟩ := Act.conclude_file options location append ran' scene'
      rw [concluded, concluded', code, text]
      refine ⟨rfl, ?_, fun none none' files => ?_⟩
      · exact scene'.settleLog_keeps.1.trans (console.trans scene.settleLog_keeps.1.symm)
      · rw [scene.settleLog_of_none none, scene'.settleLog_of_none none', files]
        rfl
  | console =>
      obtain ⟨journal, concluded⟩ := Act.conclude_console options ran scene
      obtain ⟨journal', concluded'⟩ := Act.conclude_console options ran' scene'
      rw [concluded, concluded', code, text, console]
      split <;> exact ⟨rfl, rfl, fun _ _ files => files⟩

/-- Executions whose runs came to the same come to the same. -/
theorem SameExecution.conclude {t u : Tree} {before : Scene} {es es' : List Event}
    (outline : ran'.tree.outline Tree.root = ran.tree.outline Tree.root)
    (failed : ran'.isFailed = ran.isFailed) (console : scene'.console = scene.console)
    (outlines : scene'.outlines = scene.outlines)
    (happened : scene.world.events.toList = before.world.events.toList ++ es)
    (happened' : scene'.world.events.toList = before.world.events.toList ++ es')
    (deeds : deedsByName u es' = deedsByName t es)
    (files : before.logFile = none → scene.logFile = none ∧ scene'.logFile = none ∧
      scene'.world.files = scene.world.files) :
    SameExecution t u before (Act.conclude options target ran scene)
      (Act.conclude options target ran' scene') := by
  obtain ⟨value, console, written⟩ := Act.conclude_same options target outline failed console
  obtain ⟨finished, events⟩ := Act.conclude_keeps options target ran scene
  obtain ⟨finished', events'⟩ := Act.conclude_keeps options target ran' scene'
  have told : (Act.sceneOf (Act.conclude options target ran' scene')).outlines =
      (Act.sceneOf (Act.conclude options target ran scene)).outlines := by
    rw [Scene.outlines, finished', Scene.outlines, finished]
    exact outlines
  refine ⟨value, ⟨es, es', ?_, ?_, deeds⟩, told, ?_, console, ?_⟩
  · rw [events, happened]
  · rw [events', happened']
  · intro format level
    rw [Scene.reports, Scene.reports, told]
  · intro none
    obtain ⟨logFile, logFile', same⟩ := files none
    exact written logFile logFile' same

end Conclusion

section Names

variable {ρ : NodeId → NodeId} {t u : Tree} {es es' : List Event}

theorem Tree.Twins.places_eq (twins : Tree.Twins ρ t u) : u.places = t.places := by
  have numbers : u.preorder Tree.root = (t.preorder Tree.root).map ρ := by
    rw [Tree.preorder, twins.below_root, Forest.preorder_map, Tree.preorder, List.map_cons,
      twins.top]
  rw [Tree.places, Tree.places, numbers, List.map_map]
  apply List.map_congr_left
  intro n mem
  have up := twins.wf.mem_preorder_iff.1 mem
  simp only [Function.comp_apply, twins.name_eq up, twins.dataDir_eq up, twins.pathNames_eq up]

/-- What is the same up to the numbers is the same by name. -/
theorem Tree.Twins.deedsByName_eq (twins : Tree.Twins ρ t u) (same : SameDeeds ρ es es')
    (scope : ∀ e ∈ es, Tree.root ∈ t.ancestors e.node) :
    deedsByName u es' = deedsByName t es := by
  rw [deedsByName, deedsByName, same, List.map_map]
  apply List.map_congr_left
  intro d mem
  obtain ⟨e, he, told⟩ := mem_deeds_iff.1 mem
  apply Deed.map_map_of_node
  rw [Event.node_of_deed? told]
  exact twins.name_eq (scope e he)

end Names

/-- Suite `u` has the nodes of suite `s` that hang together with its root, with their hooks, under
the numbers that `ρ` gives them. -/
structure Suite.Twins (ρ : NodeId → NodeId) (s u : Suite) : Prop where
  trees : Tree.Twins ρ s.tree u.tree
  hooked : ∀ m, Tree.root ∈ s.tree.ancestors m →
    (u.tree.get (ρ m)).hooked = (s.tree.get m).hooked
  hooks : ∀ m, Tree.root ∈ s.tree.ancestors m → u.hooksOf (ρ m) = s.hooksOf m

/-- Twins are executed in the same way, in scenes that differ in the log. -/
theorem Suite.Twins.same_execution {ρ : NodeId → NodeId} {s u : Suite} (twins : Suite.Twins ρ s u)
    (options : Options) (target : Target) (scene : Scene) (rs : List Record) :
    SameExecution s.tree u.tree scene
      (execute options [s] target { scene with world := scene.world.logAll rs })
      (execute options [u] target scene) := by
  generalize start : s.startIn { scene with world := scene.world.logAll rs } = a
  generalize start' : u.startIn scene = b
  have began : a.tree = s.tree ∧ a.world.events = scene.world.events := by
    rw [← start]
    exact ⟨rfl, rfl⟩
  have began' : b.tree = u.tree ∧ b.world.events = scene.world.events := by
    rw [← start']
    exact ⟨rfl, rfl⟩
  have shown : b.world.shown = a.world.shown := by
    rw [← start, ← start']
    rfl
  obtain ⟨trees, hooked, hooks⟩ := twins
  rw [← began.1, ← began'.1] at trees hooked
  rw [← began.1] at hooks
  have together : (runNode options s.hooksOf Tree.root).Together
      (runNode options u.hooksOf Tree.root) a b _ _ :=
    together_runNode_of_twins trees hooked hooks shown
  have emits : (runNode options s.hooksOf Tree.root).Emits a _ _ :=
    emits_runNode_scope trees.wf trees.wf.root_lt_size
  have emits' : (runNode options u.hooksOf Tree.root).Emits b _ _ :=
    emits_runNode_scope trees.wf' trees.wf'.root_lt_size
  obtain ⟨es, led, scope⟩ := emits.exists_leads
  obtain ⟨es', led', -⟩ := emits'.exists_leads
  have deeds : deedsByName u.tree es' = deedsByName s.tree es := by
    rw [← began.1, ← began'.1]
    exact trees.deedsByName_eq (together.of_leads led led').1 scope
  unfold Run.Together at together
  unfold Run.Leads at led led'
  split at together
  · next _ a' _ b' ran ran' =>
    rw [ran] at led
    rw [ran'] at led'
    rw [execute_of_ended (start.symm ▸ ran), execute_of_ended (start'.symm ▸ ran')]
    have after := together.twins trees
    have failed : Suite.isFailed { u with tree := b'.tree } =
        Suite.isFailed { s with tree := a'.tree } := after.isFailed_root
    refine SameExecution.conclude options target after.outline_root failed rfl ?_
      ?_ ?_ deeds fun none => ⟨none, none, ?_⟩
    · rw [Scene.outlines_afterRun, Scene.outlines_afterRun, after.outline_root]
      rfl
    · rw [← began.2]
      exact led.events
    · rw [← began'.2]
      exact led'.events
    · exact (World.shown_eq_iff.1 together.world).2.1
  · next ran ran' =>
    rw [ran] at led
    rw [ran'] at led'
    obtain ⟨rfl, ended⟩ := together
    rw [execute_of_halted (start.symm ▸ ran), execute_of_halted (start'.symm ▸ ran')]
    refine ⟨rfl, ⟨es, es', ?_, ?_, deeds⟩, rfl, fun _ _ => rfl, rfl, fun _ => ?_⟩
    · rw [← began.2]
      exact led
    · rw [← began'.2]
      exact led'
    · exact (World.shown_eq_iff.1 ended.world).2.1
  · exact together.elim

/-- The pruned suite and the one that is built without what was pruned are twins. -/
theorem Thinned.suites {max : Duration} {ns : Numbering} {s u : Suite} (thin : Thinned max ns s u) :
    Suite.Twins ns.rename (s.prune max) u where
  trees := thin.twins
  hooked _ := thin.hooked_rename
  hooks _ := thin.hooksOf_rename

/-- Pruned cases might as well not have been added. A suite is built by a plan, and a filter asks
for it. To select it and to execute the selection is to execute the suite of the plan without the
children of the root that take longer than the filter allows and without everything below them:
hooks of nodes with the same names are called and are told the same, the trees tell the same of
their nodes, so that the reports are the same, the nodes keep their data directories and their
paths, and the result is the same. -/
theorem pruned_as_never_added {p : Plan} (fits : p.Fits) {filter : Filter}
    (asked : filter.admits p.suite = true) (options : Options) (target : Target) (scene : Scene) :
    (p.suite.prune filter.maxDuration).tree.places =
        (p.without filter.maxDuration).suite.tree.places ∧
      SameExecution (p.suite.prune filter.maxDuration).tree
        (p.without filter.maxDuration).suite.tree scene
        (Act.executeSelected options [p.suite] filter target scene)
        (execute options [(p.without filter.maxDuration).suite] target scene) := by
  obtain ⟨ns, thin⟩ := fits.thinned filter.maxDuration
  have twins : Suite.Twins ns.rename (p.suite.prune filter.maxDuration)
      (p.without filter.maxDuration).suite := thin.suites
  have selected : Registry.select [p.suite] filter = [p.suite.prune filter.maxDuration] := by
    rw [Registry.select, List.filter_cons_of_pos asked, List.filter_nil, List.map_singleton]
  refine ⟨twins.trees.places_eq.symm, ?_⟩
  have executed : Act.executeSelected options [p.suite] filter target scene =
      execute options [p.suite.prune filter.maxDuration] target { scene with
        world := scene.world.logAll (Registry.selectRecords [p.suite] filter) } := by
    rw [← selected]
    rfl
  rw [executed]
  exact twins.same_execution options target scene _

/-- A quick run of a plan with a long case. The case goes, with the node below it and its data
directory, and the nodes after it move up; a long node deeper in the tree stays. -/
theorem long_case_as_never_added :
    let p : Plan := {
      name := "sample"
      category := .unit
      steps := [.add 0 "first" .quick Builtin.Sample.substreams,
        .add 0 "long" .extensive Builtin.Sample.substreams, .add 2 "below" .quick .idle,
        .declareData 3 "fixtures", .add 0 "second" .quick Builtin.Sample.substreams,
        .add 4 "deep" .extensive .idle, .declareData 5 "data"] }
    let shorter : Plan := {
      name := "sample"
      category := .unit
      steps := [.add 0 "first" .quick Builtin.Sample.substreams,
        .add 0 "second" .quick Builtin.Sample.substreams, .add 2 "deep" .extensive .idle,
        .declareData 3 "data"] }
    let filter : Filter := {}
    p.Fits ∧ filter.admits p.suite = true ∧ p.without .quick = shorter ∧
      (p.suite.prune .quick).tree.places = (p.without .quick).suite.tree.places ∧
      ∀ scene, SameExecution (p.suite.prune .quick).tree (p.without .quick).suite.tree scene
        (Act.executeSelected {} [p.suite] filter .console scene)
        (execute {} [(p.without .quick).suite] .console scene) := by
  intro p shorter filter
  have fits : p.Fits := by
    refine ⟨?_, ?_, ?_, ?_, ?_, ?_, ?_, trivial⟩ <;> decide
  have asked : filter.admits p.suite = true := by decide
  exact ⟨fits, asked, rfl, (pruned_as_never_added fits asked {} .console { world := {} }).1,
    fun scene => (pruned_as_never_added fits asked {} .console scene).2⟩

end SuiteTree
