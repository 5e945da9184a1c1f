import SuiteTree.Proofs.Run.Entering
import SuiteTree.Proofs.Run.Holding
import SuiteTree.Proofs.Tree.Reachable

/-!
# The frame of a run

What a run of a node may change is the progress of the nodes that it enters and, if a failure is
reported, the marks of the nodes above. Everything else stays: what the nodes are made of, the nodes
beside the subtree, and the nodes of the subtree that are not entered. Nothing is assumed of what
was known before, so this holds for every run of a tree, the first one or a later one, and for every
node, be it the root, an inner node or one that was cut off.

A node above is never entered, and each event of the run is at it or below the node that runs. So
what becomes of it can be read off the reports: it is marked if there are any.
-/

namespace SuiteTree

namespace Tree

variable {t : Tree} {a n : NodeId} {es : List Event}

/-- The nodes have the same make: they differ at most in how far they have come and in what is known
of them. -/
structure SameMake (a b : Node) : Prop where
  name : b.name = a.name
  duration : b.duration = a.duration
  dataDir : b.dataDir = a.dataDir
  children : b.children = a.children
  parent : b.parent = a.parent
  hooked : b.hooked = a.hooked

/-- What is known of a node above changes by the mark only: it is set if anything was reported, and
nothing else becomes known of the node. -/
structure MarkedAbove (t u : Tree) (a : NodeId) (rs : List (NodeId × Failure)) : Prop where
  stage : (u.get a).stage = (t.get a).stage
  failures : u.failures a = t.failures a
  elapsed : u.elapsed a = t.elapsed a
  childrenFailed : u.childrenFailed a = (t.childrenFailed a || !rs.isEmpty)
  known : (u.get a).result.isSome = true ↔ (t.get a).result.isSome = true ∨ rs ≠ []

/-- Tree `u` is tree `t` after a run of node `n` with the events `es`, as far as the run leaves
things alone. -/
structure FramedRun (t u : Tree) (n : NodeId) (es : List Event) : Prop where
  size : u.size = t.size
  make : ∀ m, SameMake (t.get m) (u.get m)
  beside : ∀ m, m ∉ t.ancestors n → n ∉ t.ancestors m →
    (u.get m).stage = (t.get m).stage ∧ (u.get m).result = (t.get m).result
  unentered : ∀ m, n ∈ t.ancestors m → .entered m ∉ es →
    (u.get m).stage = (t.get m).stage ∧ (u.get m).result = (t.get m).result
  above : ∀ a ∈ t.ancestors n, a ≠ n → t.MarkedAbove u a (reports es)

theorem sameMake_of_pristine {u : Tree} (same : u.pristine = t.pristine) (m : NodeId) :
    SameMake (t.get m) (u.get m) := by
  have node := pristine_get same m
  exact ⟨(congrArg Node.name node :), (congrArg Node.duration node :),
    (congrArg Node.dataDir node :), (congrArg Node.children node :),
    (congrArg Node.parent node :), (congrArg Node.hooked node :)⟩

/-- An event below a node marks it if the event is a report, and does nothing to it otherwise. -/
theorem get_after_of_below {e : Event} (inside : e.node < t.size) (up : a ∈ t.ancestors e.node)
    (ne : a ≠ e.node) :
    (t.after e).get a = if reports [e] = [] then t.get a else (t.get a).marked := by
  obtain ⟨n, rfl, h⟩ | ⟨n, stage, rfl, h⟩ | ⟨n, elapsed, rfl, h⟩ | ⟨n, failure, report, rfl, h⟩ |
    ⟨report, -, -, h⟩ := t.after_cases e
  · rw [h, if_pos (by rfl)]
    exact get_beginResult_of_ne ne
  · rw [h, if_pos (by rfl)]
    exact get_setStage_of_ne stage ne
  · rw [h, if_pos (by rfl)]
    exact get_update_of_ne _ ne
  · rw [h, get_reportFailure inside, if_neg ne, if_pos up, if_neg]
    simp [reports, report]
  · rw [h, if_pos]
    simp [reports, report]

/-- Events below a node mark it if there is a report among them, and do nothing to it otherwise. -/
theorem get_replay_of_below (inside : ∀ e ∈ es, e.node < t.size)
    (below : ∀ e ∈ es, a ∈ t.ancestors e.node ∧ a ≠ e.node) :
    (t.replay es).get a = if reports es = [] then t.get a else (t.get a).marked := by
  induction es generalizing t with
  | nil => rfl
  | cons e es ih =>
      obtain ⟨up, ne⟩ := below e List.mem_cons_self
      have first := get_after_of_below (inside e List.mem_cons_self) up ne
      have rest := ih (t := t.after e)
        (fun e' mem => by rw [size_after]; exact inside e' (List.mem_cons_of_mem _ mem))
        (fun e' mem => by rw [ancestors_after]; exact below e' (List.mem_cons_of_mem _ mem))
      have split : reports (e :: es) = reports [e] ++ reports es := reports_append [e] es
      have twice : (t.get a).marked.marked = (t.get a).marked := rfl
      rw [replay_cons, rest, first, split]
      by_cases now : reports [e] = []
      · rw [if_pos now, now, List.nil_append]
      · rw [if_neg now, if_neg fun none => now (List.append_eq_nil_iff.1 none).1, twice, ite_self]

/-- What a mark does to what is known of a node. -/
theorem markedAbove_of_get {u : Tree} {rs : List (NodeId × Failure)}
    (get : u.get a = if rs = [] then t.get a else (t.get a).marked) : t.MarkedAbove u a rs := by
  by_cases none : rs = []
  · rw [if_pos none] at get
    constructor
    · rw [get]
    · exact failures_congr get
    · rw [elapsed, elapsed, get]
    · rw [childrenFailed_congr get]
      simp [none]
    · simp [get, none]
  · rw [if_neg none] at get
    constructor
    · rw [get]
      rfl
    · rw [Tree.failures, get]
      rfl
    · rw [elapsed, get]
      rfl
    · rw [Tree.childrenFailed, get]
      simp [Node.marked, none]
    · simp [get, Node.marked, none]

end Tree

variable {t : Tree} {n : NodeId} {es : List Event}

/-- The frame of a complete run. -/
theorem Visit.framed (visit : Visit t n es) (wf : t.WellFormed) (inside : n < t.size) :
    t.FramedRun (t.replay es) n es := by
  have scope := visit.scope wf inside
  have grounded : Grounded t n es := by
    have whole := visit.grounded wf inside es.length
    rwa [List.take_length] at whole
  constructor
  · exact Tree.size_replay t es
  · exact Tree.sameMake_of_pristine (Tree.pristine_replay t es)
  · intro m above below
    have same : (t.replay es).get m = t.get m := Tree.get_replay_of_not_mem fun e mem =>
      Tree.not_mem_ancestors_of_apart above below (scope e mem)
    rw [same]
    exact ⟨rfl, rfl⟩
  · intro m up stays
    rw [Tree.get_replay_of_grounded grounded up stays]
    exact ⟨rfl, rfl⟩
  · intro a up ne
    apply Tree.markedAbove_of_get
    apply Tree.get_replay_of_below
    · intro e mem
      exact Tree.lt_size_of_mem_ancestors (scope e mem) inside
    · intro e mem
      refine ⟨Tree.mem_ancestors_trans up (scope e mem), ?_⟩
      rintro rfl
      exact ne (Tree.eq_of_mem_ancestors up (scope e mem))

/-- The frame of a run. Whatever the hooks do, a run of a node of a reachable tree that comes to its
end keeps the make of all nodes, leaves the nodes beside the subtree and those that it does not
enter as they are, and changes of the nodes above at most the mark that something below has failed.
A run that does not come to its end ends the process in a hook. All this holds as well if the hooks
of a node are out of the tree while it runs: the run ends in the same way, with the same tree. -/
theorem runNode_framed (reach : t.Reachable) (inside : n < t.size) (options : Options)
    (hooks : NodeId → Hooks) (world : World) :
    t.AfterRun options hooks n world (fun u es => t.FramedRun u n es)
        (fun halt es => EndsInHook options hooks halt es) ∧
      RunsHolding options hooks n ⟨t, world⟩ := by
  have wf := reach.wellFormed
  constructor
  · apply wf.afterRun
    · intro es visit
      exact visit.framed wf inside
    · intro halt es breaks
      exact breaks.1
  · exact runNode_holding wf inside options hooks

/-- The first of two cases is run after a failure of the second one was reported, and fails too. -/
theorem rerun_case_framed :
    let failing : Program Unit := .request (.fail ⟨"a < b", "2", "1", "", "suite.rs", 7⟩)
    let hooks : NodeId → Hooks := fun n => if n = 1 then { run := failing } else .idle
    let stale := Tree.twoCases.reportFailure 2 ⟨"c < d", "4", "3", "", "suite.rs", 9⟩
    stale.Reachable ∧ 1 < stale.size ∧
      stale.AfterRun {} hooks 1 {} (fun u es => stale.FramedRun u 1 es)
        (fun halt es => EndsInHook {} hooks halt es) ∧
      RunsHolding {} hooks 1 ⟨stale, {}⟩ := by
  intro failing hooks stale
  have reach : stale.Reachable := .reportFailure Tree.twoCases_reachable (by decide) _
  have inside : 1 < stale.size := by
    rw [Tree.size_eq_of_pristine (Tree.pristine_reportFailure _ _ _)]
    decide
  exact ⟨reach, inside, runNode_framed reach inside {} hooks {}⟩

end SuiteTree
