import Mathlib.Data.List.Pairwise
import SuiteTree.Proofs.Report.Walk
import SuiteTree.Proofs.Run.Entering
import SuiteTree.Proofs.Tree.Reachable

/-!
# Links in order

Links to parents and to children are stored side by side, every operation changes them in its own
way, and all walks rely on them without a check. In a reachable tree they are in order: they agree,
no node is in two places of the children lists, and they lead from older nodes to younger ones.

So going up makes the numbers smaller and going down makes them larger, and every walk comes to its
end: the way up that is taken to look something up or to mark the nodes above a failure, a run, and
the writing of a report. The walks are described by relations that follow the links as they are
stored. A relation of this kind has an instance only if the walk is finite.
-/

namespace SuiteTree

namespace Tree

variable {t : Tree} {n : NodeId}

/-- The links are in order. -/
structure LinksInOrder (t : Tree) : Prop where
  parent_iff : ∀ p c, (t.get c).parent = some p ↔ c ∈ (t.get p).children
  /-- No number comes twice in all the lists of children together. -/
  once : ((List.range t.size).flatMap fun p => (t.get p).children).Nodup
  increasing : ∀ p, (t.get p).children.Pairwise (· < ·)
  parent_lt : ∀ c p, (t.get c).parent = some p → p < c
  child_lt_size : ∀ p, ∀ c ∈ (t.get p).children, c < t.size
  root_parent : (t.get root).parent = none

/-- Following the links to parents from node `n` leads through these nodes. -/
inductive WayUp (t : Tree) : NodeId → List NodeId → Prop where
  | top {n : NodeId} (free : (t.get n).parent = none) : WayUp t n [n]
  | step {n p : NodeId} {path : List NodeId} (link : (t.get n).parent = some p)
      (up : WayUp t p path) : WayUp t n (n :: path)

/-- Marking the nodes that a link leads to, one after the other, and reading each next link off the
tree that is being changed. -/
inductive MarksUp : Tree → Option NodeId → List NodeId → Tree → Prop where
  | done {t : Tree} : MarksUp t none [] t
  | mark {t u : Tree} {a : NodeId} {path : List NodeId}
      (up : MarksUp (t.markFailedBelow a) ((t.markFailedBelow a).get a).parent path u) :
      MarksUp t (some a) (a :: path) u

/-- All walks from node `n` come to their ends, and none comes to a node twice. -/
structure WalksEnd (t : Tree) (n : NodeId) : Prop where
  /-- The way up is the list of ancestors. Its last node has no parent. -/
  up : WayUp t n (t.ancestors n)
  descending : (t.ancestors n).Pairwise (· > ·)
  /-- Reporting a failure marks the rest of the way up, to its end. -/
  report : ∀ failure, MarksUp (t.recordFailure n failure)
    ((t.recordFailure n failure).get n).parent ((t.ancestors n).drop 1) (t.reportFailure n failure)
  run : ∀ options hooks world, t.AfterRun options hooks n world
    (fun _ es => Visit t n es ∧ (visited es).Nodup)
    (fun halt es => BreaksOff options hooks (Visit t n) halt es ∧ (visited es).Nodup)
  write : ∀ format level, ∃ ns,
    Report.Walks t format level n ns (Report.lines format level (Report.view (t.outline n))) ∧
      ns.Nodup

theorem pairwise_ancestors (t : Tree) (n : NodeId) : (t.ancestors n).Pairwise (· > ·) := by
  induction n using Nat.strongRecOn with
  | ind n ih =>
      unfold ancestors
      split
      · next p _ =>
        split
        · next down =>
          refine List.pairwise_cons.2 ⟨?_, ih p down⟩
          intro a up
          exact Nat.lt_of_le_of_lt (le_of_mem_ancestors up) down
        · exact List.pairwise_singleton _ n
      · exact List.pairwise_singleton _ n

theorem ancestors_of_parent_eq_none (free : (t.get n).parent = none) : t.ancestors n = [n] := by
  rw [ancestors, free]

namespace WellFormed

/-- A parent is older than its child. -/
theorem parent_lt (wf : t.WellFormed) {c p : NodeId} (link : (t.get c).parent = some p) : p < c :=
  wf.lt_child p c ((wf.parent_iff p c).1 link)

theorem wayUp (wf : t.WellFormed) (n : NodeId) : WayUp t n (t.ancestors n) := by
  induction n using Nat.strongRecOn with
  | ind n ih =>
      cases link : (t.get n).parent with
      | none =>
          rw [ancestors_of_parent_eq_none link]
          exact .top link
      | some p =>
          have down := wf.parent_lt link
          rw [ancestors_of_lt link down]
          exact .step link (ih p down)

/-- Marking goes up along the links, which marks do not change. -/
theorem marksUp (wf : t.WellFormed) (n : NodeId) {u : Tree} (same : u.pristine = t.pristine) :
    MarksUp u (u.get n).parent ((t.ancestors n).drop 1)
      (((t.ancestors n).drop 1).foldl markFailedBelow u) := by
  induction n using Nat.strongRecOn generalizing u with
  | ind n ih =>
      rw [parent_eq_of_pristine same]
      cases link : (t.get n).parent with
      | none =>
          rw [ancestors_of_parent_eq_none link]
          exact .done
      | some p =>
          have down := wf.parent_lt link
          have marked : (u.markFailedBelow p).pristine = t.pristine := by
            rw [pristine_markFailedBelow, same]
          have rest := ih p down marked
          have path : t.ancestors p = p :: (t.ancestors p).drop 1 := by
            cases free : (t.get p).parent with
            | none => simp [ancestors_of_parent_eq_none free]
            | some q => simp [ancestors_of_lt free (wf.parent_lt free)]
          rw [ancestors_of_lt link down, List.drop_succ_cons, List.drop_zero, path, List.foldl_cons]
          exact .mark rest

theorem linksInOrder (wf : t.WellFormed) : t.LinksInOrder where
  parent_iff := wf.parent_iff
  once := by
    refine List.nodup_flatMap.2 ⟨fun p _ => ?_, ?_⟩
    · exact (wf.increasing p).imp Nat.ne_of_lt
    · refine (List.nodup_range (n := t.size)).imp ?_
      intro p q ne c hp hq
      have link := (wf.parent_iff p c).2 hp
      have link' := (wf.parent_iff q c).2 hq
      exact ne (Option.some.inj (link.symm.trans link'))
  increasing := wf.increasing
  parent_lt _ _ link := wf.parent_lt link
  child_lt_size := wf.child_lt_size
  root_parent := by
    cases link : (t.get root).parent with
    | none => rfl
    | some p => exact absurd (wf.parent_lt link) (Nat.not_lt_zero p)

theorem walksEnd (wf : t.WellFormed) (inside : n < t.size) : t.WalksEnd n where
  up := wf.wayUp n
  descending := pairwise_ancestors t n
  report failure := wf.marksUp n (pristine_recordFailure t n failure)
  run options hooks world := by
    apply wf.afterRun
    · intro es visit
      exact ⟨visit, visit.nodup_visited wf inside⟩
    · rintro halt es ⟨ends, more, fresh, visit⟩
      have whole := visit.nodup_visited wf inside
      rw [visited_append] at whole
      exact ⟨⟨ends, more, fresh, visit⟩, (List.nodup_append.1 whole).1⟩
  write format level := Report.exists_walks wf format level n

end WellFormed

end Tree

/-- However a tree came about, its links are in order, and all walks from its nodes come to their
ends. -/
theorem links_stay_in_order {t : Tree} (reach : t.Reachable) :
    t.LinksInOrder ∧ ∀ n < t.size, t.WalksEnd n := by
  have wf := reach.wellFormed
  exact ⟨wf.linksInOrder, fun n inside => wf.walksEnd inside⟩

/-- A case is cut off, gets a case below it and reports a failure. -/
theorem links_below_cut_off_case :
    let grown := (Tree.twoCases.add 1 "inner" .takesForever).2
    let cut := (grown.prune 1 .quick).reportFailure 3 ⟨"a < b", "2", "1", "", "suite.rs", 7⟩
    let t := (cut.add 3 "late" .quick).2
    t.Reachable ∧ t.LinksInOrder ∧ ∀ n < t.size, t.WalksEnd n := by
  intro grown cut t
  have size : cut.size = 4 := by
    rw [Tree.size_eq_of_pristine (Tree.pristine_reportFailure _ _ _), Tree.size_prune]
    rfl
  have reach : t.Reachable := by
    refine .add (.reportFailure (.prune (.add Tree.twoCases_reachable ?_ _ _) ?_ _) ?_ _) ?_ _ _
    · decide
    · decide
    · rw [Tree.size_prune]
      decide
    · rw [size]
      decide
  exact ⟨reach, links_stay_in_order reach⟩

end SuiteTree
