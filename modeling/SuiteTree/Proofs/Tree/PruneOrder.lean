import Mathlib.Data.List.Basic
import SuiteTree.Proofs.Tree.Pruned

/-!
# The order of prunes

What pruning does to a node depends on the children of this node and on how long they take. Pruning
another node changes neither, even if that node is above or below, or if one of the two prunes cuts
off the other node. So it makes no difference which of two nodes is pruned first, and of two prunes
of one node the stricter one decides.
-/

namespace SuiteTree.Tree

variable {t : Tree} {a b n : NodeId}

/-- Pruning a node takes the children that it detaches from the list, and no others. -/
theorem length_children_prune (inside : n < t.size) (max : Duration) :
    ((t.prune n max).get n).children.length + t.prunedCount n max =
      (t.get n).children.length := by
  rw [children_prune inside, if_pos rfl, keptChildren, prunedCount, prunedChildren]
  exact (List.length_eq_length_filter_add _).symm

/-- Pruning another node does not change which children are detached and which are kept. -/
theorem sort_prune_of_ne (inside : a < t.size) (ne : b ≠ a) (x y : Duration) :
    (t.prune a x).prunedChildren b y = t.prunedChildren b y ∧
      (t.prune a x).keptChildren b y = t.keptChildren b y := by
  have children : ((t.prune a x).get b).children = (t.get b).children := by
    rw [children_prune inside, if_neg ne]
  simp only [prunedChildren, keptChildren, children, duration_get_prune, and_self]

namespace WellFormed

/-- Prunes of two nodes commute. A child of one of them may be the other one. -/
theorem prune_comm (wf : t.WellFormed) (insideA : a < t.size) (insideB : b < t.size) (ne : a ≠ b)
    (x y : Duration) : (t.prune a x).prune b y = (t.prune b y).prune a x := by
  obtain ⟨prunedB, keptB⟩ := sort_prune_of_ne insideA ne.symm x y
  obtain ⟨prunedA, keptA⟩ := sort_prune_of_ne insideB ne y x
  apply eq_of_get
  · simp
  · intro m
    rw [(wf.prune insideA x).get_prune (by simpa using insideB), wf.get_prune insideA,
      (wf.prune insideB y).get_prune (by simpa using insideA), wf.get_prune insideB, prunedB, keptB,
      prunedA, keptA]
    by_cases isA : m = a
    · have notB : m ≠ b := isA ▸ ne
      by_cases cut : m ∈ t.prunedChildren b y
      · simp only [if_pos isA, if_neg notB, if_pos cut]
      · simp only [if_pos isA, if_neg notB, if_neg cut]
    · by_cases isB : m = b
      · by_cases cut : m ∈ t.prunedChildren a x
        · simp only [if_neg isA, if_pos isB, if_pos cut]
        · simp only [if_neg isA, if_pos isB, if_neg cut]
      · -- A node that neither of the two is loses its parent and its hooks to either prune.
        by_cases cutA : m ∈ t.prunedChildren a x
        · by_cases cutB : m ∈ t.prunedChildren b y <;> simp [isA, isB, cutA, cutB]
        · by_cases cutB : m ∈ t.prunedChildren b y <;> simp [isA, isB, cutA, cutB]

/-- The children that two prunes of one node detach are as many as one stricter prune detaches. -/
theorem prunedCount_prune (wf : t.WellFormed) (inside : n < t.size) (x y : Duration) :
    t.prunedCount n x + (t.prune n x).prunedCount n y = t.prunedCount n (x.shorter y) := by
  have inside' : n < (t.prune n x).size := by simpa using inside
  have first := length_children_prune inside x
  have second := length_children_prune inside' y
  have once := length_children_prune inside (x.shorter y)
  rw [wf.prune_prune inside] at second
  omega

end WellFormed

end Tree

/-- Two prunes of one node are one, with the shorter of the two durations: the trees are the same, and
the numbers of detached children add up. Prunes of two nodes commute and detach as many children in
either order, however the nodes hang together. Every prune detaches as many children as are missing
from the list afterwards. -/
theorem prunes_compose_and_commute {t : Tree} (reach : t.Reachable) {a b : NodeId}
    (insideA : a < t.size) (insideB : b < t.size) (x y : Duration) :
    ((t.prune a x).prune a y = t.prune a (x.shorter y) ∧
      t.prunedCount a x + (t.prune a x).prunedCount a y = t.prunedCount a (x.shorter y)) ∧
    (a ≠ b → (t.prune a x).prune b y = (t.prune b y).prune a x ∧
      (t.prune a x).prunedCount b y = t.prunedCount b y ∧
      (t.prune b y).prunedCount a x = t.prunedCount a x) ∧
    ((t.prune a x).get a).children.length + t.prunedCount a x = (t.get a).children.length := by
  have wf := reach.wellFormed
  refine ⟨⟨wf.prune_prune insideA x y, wf.prunedCount_prune insideA x y⟩, fun ne => ⟨?_, ?_, ?_⟩,
    Tree.length_children_prune insideA x⟩
  · exact wf.prune_comm insideA insideB ne x y
  · rw [Tree.prunedCount, (Tree.sort_prune_of_ne insideA ne.symm x y).1, Tree.prunedCount]
  · rw [Tree.prunedCount, (Tree.sort_prune_of_ne insideB ne y x).1, Tree.prunedCount]

/-- Pruning the suite cuts off a case, and pruning this case cuts off the case below it. -/
theorem suite_and_slow_case_pruned :
    let t := ((Tree.twoCases.add 0 "slow" .extensive).2.add 3 "inner" .takesForever).2
    t.Reachable ∧ 0 < t.size ∧ 3 < t.size ∧ 3 ∈ t.prunedChildren 0 .quick ∧
      ((t.prune 0 .quick).prune 0 .extensive = t.prune 0 .quick ∧
        t.prunedCount 0 .quick + (t.prune 0 .quick).prunedCount 0 .extensive =
          t.prunedCount 0 .quick) ∧
      ((t.prune 0 .quick).prune 3 .extensive = (t.prune 3 .extensive).prune 0 .quick ∧
        (t.prune 0 .quick).prunedCount 3 .extensive = 1 ∧
        (t.prune 3 .extensive).prunedCount 0 .quick = 1) := by
  intro t
  have reach : t.Reachable := by
    refine .add (.add Tree.twoCases_reachable ?_ _ _) ?_ _ _
    · decide
    · decide
  have suite : 0 < t.size := by decide
  have slow : 3 < t.size := by decide
  have cut : 3 ∈ t.prunedChildren 0 .quick := by decide
  obtain ⟨composed, commuted, -⟩ := prunes_compose_and_commute reach suite slow .quick .extensive
  exact ⟨reach, suite, slow, cut, composed, commuted (by decide)⟩

end SuiteTree
