import SuiteTree.DataFiles
import SuiteTree.Proofs.Tree.Failures

/-!
# Trees up to the presence of hooks

`Tree.rehooked` puts all lost hooks back. What nodes have hooks is read where a hook is to be called
and nowhere else: every operation of a run does the same with or without them, and a hook that looks
at the tree sees the same.
-/

namespace SuiteTree

/-- The node with its hooks. -/
def Node.rehooked (node : Node) : Node :=
  { node with hooked := true }

namespace Tree

/-- The tree as if no node had lost its hooks. -/
def rehooked (t : Tree) : Tree :=
  ⟨t.nodes.map Node.rehooked⟩

/-- Take the hooks of a node out of the tree, or put them back. -/
def setHooked (t : Tree) (n : NodeId) (hooked : Bool) : Tree :=
  t.update n fun node => { node with hooked }

variable (t : Tree) (n : NodeId)

@[simp] theorem size_rehooked : t.rehooked.size = t.size := by
  simp [rehooked, size]

@[simp] theorem get_rehooked : t.rehooked.get n = (t.get n).rehooked := by
  by_cases inside : n < t.nodes.size
  · simp [rehooked, get, Array.getD, inside]
  · simp [rehooked, get, Array.getD, inside]
    rfl

theorem get_setHooked (hooked : Bool) (m : NodeId) :
    (t.setHooked n hooked).get m =
      if m = n ∧ n < t.size then { t.get m with hooked } else t.get m :=
  get_update t n _ m

/-- Trees that differ in the presence of hooks only, and agree in that. -/
theorem eq_of_rehooked {t u : Tree} (same : t.rehooked = u.rehooked)
    (hooked : ∀ m, (t.get m).hooked = (u.get m).hooked) : t = u := by
  apply eq_of_get
  · simpa using congrArg size same
  · intro m
    have node : (t.get m).rehooked = (u.get m).rehooked := by
      rw [← get_rehooked, ← get_rehooked, same]
    have rest := hooked m
    cases left : t.get m
    cases right : u.get m
    simp_all [Node.rehooked]

theorem rehooked_update {f : Node → Node} (keeps : ∀ node, (f node).rehooked = f node.rehooked) :
    (t.update n f).rehooked = t.rehooked.update n f := by
  apply eq_of_get
  · simp
  · intro m
    rw [get_rehooked, get_update, get_update, size_rehooked, get_rehooked]
    split
    · exact keeps _
    · rfl

@[simp] theorem rehooked_setHooked (hooked : Bool) : (t.setHooked n hooked).rehooked = t.rehooked := by
  apply eq_of_get
  · simp [setHooked]
  · intro m
    rw [get_rehooked, get_rehooked, get_setHooked]
    split <;> rfl

@[simp] theorem rehooked_setStage (stage : Stage) :
    (t.setStage n stage).rehooked = t.rehooked.setStage n stage := by
  apply rehooked_update
  intro node
  rfl

@[simp] theorem rehooked_beginResult : (t.beginResult n).rehooked = t.rehooked.beginResult n := by
  apply rehooked_update
  intro node
  rfl

@[simp] theorem rehooked_setElapsed (elapsed : Time.Elapsed) :
    (t.setElapsed n elapsed).rehooked = t.rehooked.setElapsed n elapsed := by
  apply rehooked_update
  intro node
  rfl

theorem sameLinks_rehooked : t.rehooked.SameLinks t where
  size := size_rehooked t
  parent n := by rw [get_rehooked]; rfl
  children n := by rw [get_rehooked]; rfl

@[simp] theorem ancestors_rehooked : t.rehooked.ancestors n = t.ancestors n :=
  (sameLinks_rehooked t).ancestors n

@[simp] theorem rehooked_reportFailure (failure : Failure) :
    (t.reportFailure n failure).rehooked = t.rehooked.reportFailure n failure := by
  have marks : ∀ (ns : List NodeId) (t : Tree),
      (ns.foldl markFailedBelow t).rehooked = ns.foldl markFailedBelow t.rehooked := by
    intro ns
    induction ns with
    | nil => exact fun _ => rfl
    | cons m ns ih =>
        intro t
        have first : (t.markFailedBelow m).rehooked = t.rehooked.markFailedBelow m := by
          apply rehooked_update
          intro node
          rfl
        rw [List.foldl_cons, List.foldl_cons, ih, first]
  have recorded : (t.recordFailure n failure).rehooked = t.rehooked.recordFailure n failure := by
    apply rehooked_update
    intro node
    rfl
  rw [reportFailure, reportFailure, marks, recorded, ancestors_rehooked]

@[simp] theorem isFailed_rehooked : t.rehooked.isFailed n = t.isFailed n := by
  rw [isFailed, isFailed, get_rehooked]
  rfl

@[simp] theorem isPassing_rehooked : t.rehooked.isPassing n = t.isPassing n := by
  rw [isPassing, isPassing, get_rehooked]
  rfl

@[simp] theorem dataDir_rehooked : t.rehooked.dataDir n = t.dataDir n := by
  simp only [dataDir, ancestors_rehooked, get_rehooked]
  rfl

@[simp] theorem pathNames_rehooked : t.rehooked.pathNames n = t.pathNames n := by
  simp only [pathNames, ancestors_rehooked, get_rehooked]
  rfl

theorem outlineOf_rehooked (forest : Forest) : t.rehooked.outlineOf forest = t.outlineOf forest := by
  induction forest with
  | nil => rfl
  | node id below beside ihBelow ihBeside =>
      rw [outlineOf, outlineOf, ihBelow, ihBeside, get_rehooked]
      rfl

@[simp] theorem outline_rehooked : t.rehooked.outline n = t.outline n := by
  rw [outline, outline, outlineOf_rehooked, (sameLinks_rehooked t).below]

@[simp] theorem sight_rehooked : t.rehooked.sight n = t.sight n := by
  simp [sight]

@[simp] theorem dataFile_rehooked (w : World) (options : Options) (file : String) :
    t.rehooked.dataFile w options n file = t.dataFile w options n file := by
  rw [dataFile, dataFile, dataDir_rehooked, get_rehooked]
  rfl

@[simp] theorem tempDirectory_rehooked (options : Options) :
    t.rehooked.tempDirectory options n = t.tempDirectory options n := by
  rw [tempDirectory, tempDirectory, pathNames_rehooked]

end Tree

end SuiteTree
