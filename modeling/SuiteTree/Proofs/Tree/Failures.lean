import SuiteTree.Proofs.Tree.WellFormed

/-!
# What is known of a node

What a tree knows of a node is read through three functions: the failures reported to the node
itself, whether a failure was reported below it, and the time that it took. A node about which
nothing is known counts as one without failures. The lemmas say how each operation changes the first
two, the stage of a node, and the node as a whole; reporting a failure reaches the nodes on the way
up and no other.
-/

namespace SuiteTree

/-- The node with one more failure of its own. -/
def Node.recorded (node : Node) (failure : Failure) : Node :=
  { node with
    result := some { node.result.getD {} with
      failures := (node.result.getD {}).failures ++ [failure] } }

/-- The node with a mark that a failure was reported below it. -/
def Node.marked (node : Node) : Node :=
  { node with result := some { node.result.getD {} with childrenFailed := true } }

namespace Tree

variable {t : Tree} {m n : NodeId}

/-- The failures reported by the node itself, in the order of their reports. -/
def failures (t : Tree) (n : NodeId) : List Failure :=
  ((t.get n).result.getD {}).failures

/-- A failure was reported below the node. -/
def childrenFailed (t : Tree) (n : NodeId) : Bool :=
  ((t.get n).result.getD {}).childrenFailed

/-- The time that is noted for a node. -/
def elapsed (t : Tree) (n : NodeId) : Time.Elapsed :=
  ((t.get n).result.getD {}).elapsed

theorem isFailed_iff : t.isFailed n = true ↔ t.childrenFailed n = true ∨ t.failures n ≠ [] := by
  rw [isFailed, childrenFailed, failures]
  cases (t.get n).result with
  | none => simp
  | some r => simp

theorem isPassing_iff : t.isPassing n = true ↔ t.failures n = [] := by
  rw [isPassing, failures]
  cases (t.get n).result with
  | none => simp
  | some r => simp

theorem Idle.failures (idle : t.Idle n) : t.failures n = [] := by
  rw [Tree.failures, idle.2]
  rfl

theorem Idle.childrenFailed (idle : t.Idle n) : t.childrenFailed n = false := by
  rw [Tree.childrenFailed, idle.2]
  rfl

theorem Idle.isFailed (idle : t.Idle n) : t.isFailed n = false := by
  rw [Tree.isFailed, idle.2]

/-- What is known of a node is part of the node. -/
theorem isFailed_congr {u : Tree} (same : u.get n = t.get n) : u.isFailed n = t.isFailed n := by
  rw [isFailed, isFailed, same]

theorem failures_congr {u : Tree} (same : u.get n = t.get n) : u.failures n = t.failures n := by
  rw [failures, failures, same]

theorem childrenFailed_congr {u : Tree} (same : u.get n = t.get n) :
    u.childrenFailed n = t.childrenFailed n := by
  rw [childrenFailed, childrenFailed, same]

theorem idle_congr {u : Tree} (same : u.get n = t.get n) : u.Idle n ↔ t.Idle n := by
  rw [Idle, Idle, same]

@[simp] theorem failures_setStage (t : Tree) (n : NodeId) (stage : Stage) (m : NodeId) :
    (t.setStage n stage).failures m = t.failures m :=
  proj_get_update (fun node => (node.result.getD {}).failures) (fun _ => by rfl) t n m

@[simp] theorem childrenFailed_setStage (t : Tree) (n : NodeId) (stage : Stage) (m : NodeId) :
    (t.setStage n stage).childrenFailed m = t.childrenFailed m :=
  proj_get_update (fun node => (node.result.getD {}).childrenFailed) (fun _ => by rfl) t n m

theorem result_setStage (t : Tree) (n : NodeId) (stage : Stage) (m : NodeId) :
    ((t.setStage n stage).get m).result = (t.get m).result :=
  proj_get_update Node.result (fun _ => by rfl) t n m

theorem stage_setStage_self (stage : Stage) (inside : n < t.size) :
    ((t.setStage n stage).get n).stage = stage := by
  rw [setStage, get_update_self _ inside]

theorem get_setStage_of_ne (stage : Stage) (ne : m ≠ n) :
    (t.setStage n stage).get m = t.get m :=
  get_update_of_ne _ ne

@[simp] theorem failures_setElapsed (t : Tree) (n : NodeId) (elapsed : Time.Elapsed) (m : NodeId) :
    (t.setElapsed n elapsed).failures m = t.failures m := by
  refine proj_get_update (fun node => (node.result.getD {}).failures) ?_ t n m
  intro node
  cases h : node.result <;> rfl

@[simp] theorem childrenFailed_setElapsed (t : Tree) (n : NodeId) (elapsed : Time.Elapsed)
    (m : NodeId) : (t.setElapsed n elapsed).childrenFailed m = t.childrenFailed m := by
  refine proj_get_update (fun node => (node.result.getD {}).childrenFailed) ?_ t n m
  intro node
  cases h : node.result <;> rfl

theorem stage_setElapsed (t : Tree) (n : NodeId) (elapsed : Time.Elapsed) (m : NodeId) :
    ((t.setElapsed n elapsed).get m).stage = (t.get m).stage :=
  proj_get_update Node.stage (fun _ => by rfl) t n m

theorem stage_beginResult (t : Tree) (n m : NodeId) :
    ((t.beginResult n).get m).stage = (t.get m).stage :=
  proj_get_update Node.stage (fun _ => by rfl) t n m

theorem get_beginResult_of_ne (ne : m ≠ n) : (t.beginResult n).get m = t.get m :=
  get_update_of_ne _ ne

theorem result_beginResult_self (inside : n < t.size) :
    ((t.beginResult n).get n).result = some {} := by
  rw [beginResult, get_update_self _ inside]

theorem isSome_result_beginResult (known : (t.get m).result.isSome) :
    ((t.beginResult n).get m).result.isSome := by
  rw [beginResult, get_update]
  split
  · rfl
  · exact known

theorem isSome_result_setElapsed (elapsed : Time.Elapsed) (known : (t.get m).result.isSome) :
    ((t.setElapsed n elapsed).get m).result.isSome := by
  rw [setElapsed, get_update]
  split
  · rwa [Option.isSome_map]
  · exact known

/-- Marking several nodes changes those nodes and no other, and marking twice is like once. -/
private theorem get_foldl_markFailedBelow (ns : List NodeId) (t : Tree) (m : NodeId) :
    (ns.foldl markFailedBelow t).get m =
      if m ∈ ns ∧ m < t.size then (t.get m).marked else t.get m := by
  induction ns generalizing t with
  | nil => simp
  | cons n ns ih =>
      have first : (t.markFailedBelow n).get m =
          if m = n ∧ n < t.size then (t.get m).marked else t.get m :=
        get_update t n Node.marked m
      have twice : (t.get m).marked.marked = (t.get m).marked := rfl
      have size : (t.markFailedBelow n).size = t.size := size_update t n _
      rw [List.foldl_cons, ih, first, size]
      by_cases same : m = n
      · subst same
        by_cases inside : m < t.size <;> simp [inside, twice]
      · simp [same]

/-- Reporting a failure to node `n`, seen from any node: `n` records the failure, the nodes above
`n` are marked, and no other node changes. -/
theorem get_reportFailure (inside : n < t.size) (failure : Failure) (m : NodeId) :
    (t.reportFailure n failure).get m =
      if m = n then (t.get m).recorded failure
      else if m ∈ t.ancestors n then (t.get m).marked
      else t.get m := by
  have recorded : (t.recordFailure n failure).get m =
      if m = n ∧ n < t.size then (t.get m).recorded failure else t.get m :=
    get_update t n (·.recorded failure) m
  have size : (t.recordFailure n failure).size = t.size := size_update t n _
  simp only [reportFailure, get_foldl_markFailedBelow, recorded, size, mem_drop_ancestors_iff]
  by_cases same : m = n
  · simp [same, inside]
  · by_cases up : m ∈ t.ancestors n
    · have inside' : m < t.size := Nat.lt_of_le_of_lt (le_of_mem_ancestors up) inside
      simp [same, up, inside']
    · simp [same, up]

theorem get_reportFailure_of_not_mem (failure : Failure) (apart : m ∉ t.ancestors n) :
    (t.reportFailure n failure).get m = t.get m := by
  have ne : m ≠ n := fun same => apart (same ▸ mem_ancestors_self t n)
  have recorded : (t.recordFailure n failure).get m = t.get m := get_update_of_ne _ ne
  rw [reportFailure, get_foldl_markFailedBelow, recorded, if_neg]
  exact fun above => apart (mem_drop_ancestors_iff.1 above.1).1

theorem stage_reportFailure (t : Tree) (n : NodeId) (failure : Failure) (m : NodeId) :
    ((t.reportFailure n failure).get m).stage = (t.get m).stage := by
  have recorded : ((t.recordFailure n failure).get m).stage = (t.get m).stage :=
    proj_get_update Node.stage (fun _ => by rfl) t n m
  rw [reportFailure, get_foldl_markFailedBelow, ← recorded]
  split <;> rfl

theorem failures_reportFailure (inside : n < t.size) (failure : Failure) (m : NodeId) :
    (t.reportFailure n failure).failures m =
      if m = n then t.failures m ++ [failure] else t.failures m := by
  rw [failures, get_reportFailure inside]
  by_cases same : m = n
  · rw [if_pos same, if_pos same]
    rfl
  · rw [if_neg same, if_neg same]
    by_cases up : m ∈ t.ancestors n
    · rw [if_pos up]
      rfl
    · rw [if_neg up]
      rfl

theorem childrenFailed_reportFailure (inside : n < t.size) (failure : Failure) (m : NodeId) :
    (t.reportFailure n failure).childrenFailed m = true ↔
      t.childrenFailed m = true ∨ m ∈ t.ancestors n ∧ m ≠ n := by
  rw [childrenFailed, get_reportFailure inside]
  by_cases same : m = n
  · simp [same, Node.recorded, childrenFailed]
  · by_cases up : m ∈ t.ancestors n
    · simp [same, up, Node.marked]
    · simp [same, up, childrenFailed]

/-- Reporting a failure forgets nothing that was known before. -/
theorem isSome_result_reportFailure (inside : n < t.size) (failure : Failure)
    (known : (t.get m).result.isSome) : ((t.reportFailure n failure).get m).result.isSome := by
  rw [get_reportFailure inside]
  split
  · rfl
  · split
    · rfl
    · exact known

end Tree

end SuiteTree
