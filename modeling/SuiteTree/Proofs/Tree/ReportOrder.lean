import SuiteTree.Proofs.Run.Accounts

/-!
# The order of reports

Every report writes to a whole way up: the node that makes it, and all nodes above. The ways of two
reports may share nodes, and yet it makes no difference which of two nodes reports first. What some
reports make of a node depends on two things only: on the failures that the node reported itself, in
their order, and on whether any report came from below.
-/

namespace SuiteTree

/-- The node after failures of its own and, if `below` says so, reports from below it. -/
def Node.told (node : Node) (own : List Failure) (below : Bool) : Node :=
  if own = [] ∧ below = false then node
  else
    let known := node.result.getD {}
    { node with
      result := some { known with
        failures := known.failures ++ own
        childrenFailed := known.childrenFailed || below } }

/-- Being told in two steps is being told all of it at once. -/
theorem Node.told_told (node : Node) (own own' : List Failure) (below below' : Bool) :
    (node.told own below).told own' below' = node.told (own ++ own') (below || below') := by
  unfold told
  by_cases first : own = [] ∧ below = false
  · simp [first]
  · by_cases second : own' = [] ∧ below' = false
    · simp [second]
    · have either : ¬(own ++ own' = [] ∧ (below || below') = false) := by
        simp only [List.append_eq_nil_iff, Bool.or_eq_false_iff]
        exact fun none => first ⟨none.1.1, none.2.1⟩
      simp only [if_neg first, if_neg second, if_neg either, Option.getD_some, List.append_assoc,
        Bool.or_assoc]

namespace Tree

variable {t : Tree} {m n : NodeId} {rs rs' : List (NodeId × Failure)}

/-- One of the reports came from below the node. -/
def reportedBelow (t : Tree) (m : NodeId) (rs : List (NodeId × Failure)) : Bool :=
  rs.any fun r => m ∈ t.ancestors r.1 ∧ m ≠ r.1

theorem reportedBelow_eq_true_iff :
    t.reportedBelow m rs = true ↔ ∃ r ∈ rs, m ∈ t.ancestors r.1 ∧ m ≠ r.1 := by
  simp [reportedBelow]

/-- What one report makes of a node. -/
theorem told_reportFailure (inside : n < t.size) (failure : Failure) (m : NodeId) :
    (t.reportFailure n failure).get m =
      (t.get m).told (reportsBy m [(n, failure)]) (t.reportedBelow m [(n, failure)]) := by
  rw [get_reportFailure inside]
  by_cases same : m = n
  · subst same
    simp [reportsBy, reportedBelow, Node.told, Node.recorded]
  · by_cases up : m ∈ t.ancestors n
    · simp [same, Ne.symm same, up, reportsBy, reportedBelow, Node.told, Node.marked]
    · simp [same, Ne.symm same, up, reportsBy, reportedBelow, Node.told]

/-- What several reports make of a node. -/
theorem told_reportAll (inside : ∀ r ∈ rs, r.1 < t.size) (m : NodeId) :
    (t.reportAll rs).get m = (t.get m).told (reportsBy m rs) (t.reportedBelow m rs) := by
  induction rs generalizing t with
  | nil => rfl
  | cons r rs ih =>
      have same := pristine_reportFailure t r.1 r.2
      have later : ∀ r' ∈ rs, r'.1 < (t.reportFailure r.1 r.2).size := fun r' mem =>
        size_eq_of_pristine same ▸ inside r' (List.mem_cons_of_mem _ mem)
      have below : (t.reportFailure r.1 r.2).reportedBelow m rs = t.reportedBelow m rs := by
        simp only [reportedBelow, ancestors_eq_of_pristine same]
      have split : r :: rs = [r] ++ rs := rfl
      have both : t.reportedBelow m ([r] ++ rs) =
          (t.reportedBelow m [r] || t.reportedBelow m rs) := List.any_append
      calc
        (t.reportAll (r :: rs)).get m = ((t.reportFailure r.1 r.2).reportAll rs).get m := rfl
        _ = ((t.get m).told (reportsBy m [r]) (t.reportedBelow m [r])).told
              (reportsBy m rs) (t.reportedBelow m rs) := by
          rw [ih later, below, told_reportFailure (inside r List.mem_cons_self)]
        _ = (t.get m).told (reportsBy m (r :: rs)) (t.reportedBelow m (r :: rs)) := by
          rw [Node.told_told, split, reportsBy_append, both]

theorem failures_reportAll (inside : ∀ r ∈ rs, r.1 < t.size) (m : NodeId) :
    (t.reportAll rs).failures m = t.failures m ++ reportsBy m rs := by
  rw [failures, told_reportAll inside, Node.told]
  split
  · next none => simp [failures, none.1]
  · rfl

/-- Whether a report came from below does not depend on the order of the reports. -/
theorem reportedBelow_eq (same : ∀ n, reportsBy n rs = reportsBy n rs') (m : NodeId) :
    t.reportedBelow m rs = t.reportedBelow m rs' := by
  have mem : ∀ r, r ∈ rs ↔ r ∈ rs' := fun r => by
    rw [← mem_reportsBy_iff (n := r.1), same, mem_reportsBy_iff]
  rw [Bool.eq_iff_iff, reportedBelow_eq_true_iff, reportedBelow_eq_true_iff]
  simp only [mem]

end Tree

/-- Reports commute, but for those of one node. Two sequences of reports to nodes of a tree, whatever
is known of these and wherever they hang, lead to the same tree exactly if every node makes the same
reports in both, in the same order. -/
theorem reports_commute {t : Tree} {rs rs' : List (NodeId × Failure)}
    (inside : ∀ r ∈ rs, r.1 < t.size) (inside' : ∀ r ∈ rs', r.1 < t.size) :
    t.reportAll rs = t.reportAll rs' ↔ ∀ n, reportsBy n rs = reportsBy n rs' := by
  constructor
  · intro same n
    have failures : (t.reportAll rs).failures n = (t.reportAll rs').failures n := by rw [same]
    rw [Tree.failures_reportAll inside, Tree.failures_reportAll inside'] at failures
    exact List.append_cancel_left failures
  · intro same
    apply Tree.eq_of_get
    · have kept : (t.reportAll rs).pristine = (t.reportAll rs').pristine := by simp
      exact Tree.size_eq_of_pristine kept
    · intro m
      rw [Tree.told_reportAll inside, Tree.told_reportAll inside', same,
        Tree.reportedBelow_eq same]

/-- A case that was cut off, the case below it and another case report in two orders. One of them has
failed before. -/
theorem reports_beside_cut_commute :
    let failure (line : Nat) : Failure := ⟨"a < b", "2", "1", "", "suite.rs", line⟩
    let grown := (Tree.twoCases.add 1 "inner" .takesForever).2
    let t := (grown.prune 1 .quick).reportFailure 3 (failure 5)
    let rs := [(3, failure 7), (2, failure 9), (3, failure 8), (1, failure 6)]
    let rs' := [(1, failure 6), (3, failure 7), (3, failure 8), (2, failure 9)]
    (∀ r ∈ rs, r.1 < t.size) ∧ (∀ r ∈ rs', r.1 < t.size) ∧
      (∀ n, reportsBy n rs = reportsBy n rs') ∧ t.reportAll rs = t.reportAll rs' := by
  intro failure grown t rs rs'
  have size : t.size = 4 := by
    rw [Tree.size_eq_of_pristine (Tree.pristine_reportFailure _ _ _), Tree.size_prune]
    rfl
  have inside : ∀ r ∈ rs, r.1 < t.size := by
    rw [size]
    decide
  have inside' : ∀ r ∈ rs', r.1 < t.size := by
    rw [size]
    decide
  have same : ∀ n, reportsBy n rs = reportsBy n rs' := by
    intro n
    match n with
    | 0 | 1 | 2 | 3 => rfl
    | n + 4 => simp [rs, rs', reportsBy]
  exact ⟨inside, inside', same, (reports_commute inside inside').2 same⟩

end SuiteTree
