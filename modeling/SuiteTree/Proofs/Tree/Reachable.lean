import SuiteTree.Proofs.Run.Course

/-!
# Reachable trees

A tree is reachable if it is made by adding nodes to a new tree, declaring data directories,
pruning, reporting failures and running nodes, in any order. Nothing is assumed of the hooks or of
the surroundings of the runs. Only adding and pruning touch the links, and both leave them in order,
so reachable trees are well-formed.
-/

namespace SuiteTree.Tree

/-- The trees that the operations on trees and the runs lead to. Numbers stand for nodes of the tree
they are used with. -/
inductive Reachable : Tree → Prop where
  | new (name : String) : Reachable (.new name)
  | add {t : Tree} {parent : NodeId} (h : Reachable t) (inside : parent < t.size) (name : String)
      (duration : Duration) : Reachable (t.add parent name duration).2
  | setDataDir {t : Tree} {n : NodeId} (h : Reachable t) (inside : n < t.size) (dir : String) :
      Reachable (t.setDataDir n dir)
  | prune {t : Tree} {n : NodeId} (h : Reachable t) (inside : n < t.size) (max : Duration) :
      Reachable (t.prune n max)
  | reportFailure {t : Tree} {n : NodeId} (h : Reachable t) (inside : n < t.size)
      (failure : Failure) : Reachable (t.reportFailure n failure)
  | run {t : Tree} {n : NodeId} {world : World} {s : State} (h : Reachable t)
      (inside : n < t.size) (options : Options) (hooks : NodeId → Hooks)
      (ended : runNode options hooks n ⟨t, world⟩ = .ok () s) : Reachable s.tree

variable {t : Tree} {n parent : NodeId}

section NewNodes

theorem WellFormed.new (name : String) : (Tree.new name).WellFormed := by
  have linkless : ∀ n, ((Tree.new name).get n).parent = none ∧
      ((Tree.new name).get n).children = [] := by
    intro n
    cases n with
    | zero => exact ⟨rfl, rfl⟩
    | succ n => exact ⟨rfl, rfl⟩
  refine ⟨Nat.zero_lt_one, ?_, ?_, ?_, ?_⟩
  all_goals simp [linkless]

@[simp] theorem size_add (t : Tree) (parent : NodeId) (name : String) (duration : Duration) :
    (t.add parent name duration).2.size = t.size + 1 := by
  simp [add, size, update]

theorem get_add (inside : parent < t.size) (name : String) (duration : Duration) (m : NodeId) :
    (t.add parent name duration).2.get m =
      if m = t.size then { name, duration, parent := some parent }
      else if m = parent then { t.get m with children := (t.get m).children ++ [t.size] }
      else t.get m := by
  have grown : ∀ node : Node, Tree.get ⟨t.nodes.push node⟩ m =
      if m = t.size then node else t.get m := by
    intro node
    by_cases last : m = t.nodes.size
    · simp [get, size, last]
    · by_cases below : m < t.nodes.size
      · simp [get, size, last, Array.getD, below, Nat.lt_succ_of_lt below, Array.getElem_push]
      · have above : ¬ m < t.nodes.size + 1 := fun h =>
          last (Nat.le_antisymm (Nat.le_of_lt_succ h) (Nat.not_lt.1 below))
        simp [get, size, last, Array.getD, below, above]
  have room : parent < t.size + 1 := Nat.lt_succ_of_lt inside
  have size : Tree.size ⟨t.nodes.push { name, duration, parent := some parent }⟩ = t.size + 1 := by
    simp [Tree.size]
  simp only [add, get_update, grown, size, room, and_true]
  by_cases last : m = t.size
  · have ne : m ≠ parent := last ▸ Nat.ne_of_gt inside
    rw [if_neg ne, if_pos last, if_pos last]
  · rw [if_neg last, if_neg last]

theorem children_add (inside : parent < t.size) (name : String) (duration : Duration)
    (m : NodeId) : ((t.add parent name duration).2.get m).children =
      if m = t.size then [] else if m = parent then (t.get m).children ++ [t.size]
      else (t.get m).children := by
  rw [get_add inside]
  split
  · rfl
  · split <;> rfl

theorem parent_add (inside : parent < t.size) (name : String) (duration : Duration)
    (m : NodeId) : ((t.add parent name duration).2.get m).parent =
      if m = t.size then some parent else (t.get m).parent := by
  rw [get_add inside]
  split
  · rfl
  · split <;> rfl

theorem facts_add (inside : parent < t.size) (name : String) (duration : Duration)
    (m : NodeId) : ((t.add parent name duration).2.get m).facts =
      if m = t.size then Node.facts { name, duration } else (t.get m).facts := by
  rw [get_add inside]
  split
  · rfl
  · split <;> rfl

theorem WellFormed.add (wf : t.WellFormed) (inside : parent < t.size) (name : String)
    (duration : Duration) : (t.add parent name duration).2.WellFormed := by
  -- The number of the new node is beyond all links of the old tree.
  have unlinked : t.get t.size = default := get_of_size_le (Nat.le_refl _)
  have fresh : ∀ p, t.size ∉ (t.get p).children := fun p mem =>
    Nat.lt_irrefl _ (wf.child_lt_size p _ mem)
  have children : ∀ p, ((t.add parent name duration).2.get p).children =
      if p = parent then (t.get p).children ++ [t.size] else (t.get p).children := by
    intro p
    rw [children_add inside]
    split
    · next last =>
      have ne : p ≠ parent := last ▸ Nat.ne_of_gt inside
      rw [if_neg ne, last, unlinked]
      rfl
    · rfl
  have mem_children : ∀ p c, c ∈ ((t.add parent name duration).2.get p).children ↔
      c ∈ (t.get p).children ∨ p = parent ∧ c = t.size := by
    intro p c
    rw [children]
    by_cases same : p = parent <;> simp [same]
  constructor
  · rw [size_add]
    exact Nat.lt_succ_of_lt wf.root_lt_size
  · intro p c
    rw [parent_add inside, mem_children]
    by_cases last : c = t.size
    · subst last
      simp [fresh, eq_comm]
    · simp [last, wf.parent_iff]
  · intro p c mem
    obtain old | ⟨rfl, rfl⟩ := (mem_children p c).1 mem
    · exact wf.lt_child p c old
    · exact inside
  · intro p c mem
    rw [size_add]
    obtain old | ⟨-, rfl⟩ := (mem_children p c).1 mem
    · exact Nat.lt_succ_of_lt (wf.child_lt_size p c old)
    · exact Nat.lt_succ_self _
  · intro p
    rw [children]
    split
    · refine List.pairwise_append.2 ⟨wf.increasing p, List.pairwise_singleton _ _, ?_⟩
      intro c mem d last
      rw [List.mem_singleton.1 last]
      exact wf.child_lt_size p c mem
    · exact wf.increasing p

end NewNodes

section PrunedNodes

@[simp] theorem size_foldl_detach (cs : List NodeId) (t : Tree) :
    (cs.foldl detach t).size = t.size := by
  induction cs generalizing t with
  | nil => rfl
  | cons c cs ih => rw [List.foldl_cons, ih, detach, size_update]

@[simp] theorem size_prune (t : Tree) (n : NodeId) (max : Duration) :
    (t.prune n max).size = t.size := by
  rw [prune, size_update, size_foldl_detach]

/-- Detaching several nodes changes those nodes and no other, and detaching twice is like once. -/
theorem get_foldl_detach (cs : List NodeId) (t : Tree) (m : NodeId) :
    (cs.foldl detach t).get m =
      if m ∈ cs ∧ m < t.size then { t.get m with parent := none, hooked := false }
      else t.get m := by
  induction cs generalizing t with
  | nil => simp
  | cons c cs ih =>
      have first : (t.detach c).get m =
          if m = c ∧ c < t.size then { t.get m with parent := none, hooked := false }
          else t.get m := get_update t c _ m
      have size : (t.detach c).size = t.size := size_update t c _
      rw [List.foldl_cons, ih, first, size]
      by_cases same : m = c
      · subst same
        by_cases inside : m < t.size <;> simp [inside]
      · simp [same]

theorem children_foldl_detach (cs : List NodeId) (t : Tree) (m : NodeId) :
    ((cs.foldl detach t).get m).children = (t.get m).children := by
  rw [get_foldl_detach]
  split <;> rfl

theorem parent_foldl_detach (cs : List NodeId) (t : Tree) (m : NodeId) :
    ((cs.foldl detach t).get m).parent = if m ∈ cs then none else (t.get m).parent := by
  rw [get_foldl_detach]
  by_cases inside : m < t.size
  · by_cases mem : m ∈ cs <;> simp [mem, inside]
  · rw [get_of_size_le (Nat.not_lt.1 inside), if_neg fun h => inside h.2]
    exact (ite_self none).symm

theorem children_prune (inside : n < t.size) (max : Duration) (m : NodeId) :
    ((t.prune n max).get m).children =
      if m = n then t.keptChildren n max else (t.get m).children := by
  rw [prune, get_update, size_foldl_detach]
  by_cases same : m = n
  · simp [same, inside]
  · simp [same, children_foldl_detach]

theorem parent_prune (t : Tree) (n : NodeId) (max : Duration) (m : NodeId) :
    ((t.prune n max).get m).parent =
      if m ∈ t.prunedChildren n max then none else (t.get m).parent := by
  rw [← parent_foldl_detach]
  exact proj_get_update Node.parent (fun _ => by rfl) _ n m

theorem WellFormed.prune (wf : t.WellFormed) (inside : n < t.size) (max : Duration) :
    (t.prune n max).WellFormed := by
  have sublist : ∀ p, ((t.prune n max).get p).children.Sublist (t.get p).children := by
    intro p
    rw [children_prune inside]
    split
    · next same => exact same ▸ List.filter_sublist
    · exact .refl _
  constructor
  · rw [size_prune]
    exact wf.root_lt_size
  · intro p c
    have kept : c ∈ t.keptChildren n max ↔
        c ∈ (t.get n).children ∧ c ∉ t.prunedChildren n max := by
      simp only [keptChildren, prunedChildren, List.mem_filter]
      simp +contextual
    have own : c ∈ t.prunedChildren n max → (t.get c).parent = some n := fun mem =>
      (wf.parent_iff n c).2 ((List.mem_filter.1 mem).1)
    rw [parent_prune, children_prune inside]
    by_cases pruned : c ∈ t.prunedChildren n max
    · by_cases same : p = n
      · simp [pruned, same, kept]
      · have other : c ∉ (t.get p).children := by
          rw [← wf.parent_iff, own pruned]
          exact fun eq => same (Option.some.inj eq).symm
        simp [pruned, same, other]
    · by_cases same : p = n
      · simp [pruned, same, kept, wf.parent_iff]
      · simp [pruned, same, wf.parent_iff]
  · intro p c mem
    exact wf.lt_child p c ((sublist p).mem mem)
  · intro p c mem
    rw [size_prune]
    exact wf.child_lt_size p c ((sublist p).mem mem)
  · intro p
    exact (wf.increasing p).sublist (sublist p)

end PrunedNodes

section Reachability

theorem WellFormed.setDataDir (wf : t.WellFormed) (n : NodeId) (dir : String) :
    (t.setDataDir n dir).WellFormed := by
  have children : ∀ m, ((t.setDataDir n dir).get m).children = (t.get m).children :=
    proj_get_update Node.children (fun _ => by rfl) t n
  have links : ∀ m, ((t.setDataDir n dir).get m).parent = (t.get m).parent :=
    proj_get_update Node.parent (fun _ => by rfl) t n
  have size : (t.setDataDir n dir).size = t.size := size_update t n _
  constructor
  · rw [size]
    exact wf.root_lt_size
  · intro p c
    rw [links, children]
    exact wf.parent_iff p c
  · intro p
    rw [children]
    exact wf.lt_child p
  · intro p
    rw [children, size]
    exact wf.child_lt_size p
  · intro p
    rw [children]
    exact wf.increasing p

/-- A run that comes to its end replays its events on the tree, and these leave the links alone. -/
theorem pristine_of_ended (wf : t.WellFormed) {options : Options} {hooks : NodeId → Hooks}
    {world : World} {s : State} (ended : runNode options hooks n ⟨t, world⟩ = .ok () s) :
    s.tree.pristine = t.pristine := by
  obtain ⟨es, ext, -⟩ := exists_visit_of_ended wf ended
  exact ext.pristine

theorem Reachable.wellFormed (reach : t.Reachable) : t.WellFormed := by
  induction reach with
  | new name => exact .new name
  | add _ inside name duration ih => exact ih.add inside name duration
  | setDataDir _ _ dir ih => exact ih.setDataDir _ dir
  | prune _ inside max ih => exact ih.prune inside max
  | reportFailure _ _ failure ih => exact ih.of_pristine (pristine_reportFailure _ _ failure).symm
  | run _ _ _ _ ended ih => exact ih.of_pristine (pristine_of_ended ih ended).symm

end Reachability

section LostHooks

theorem hooked_of_detach (cs : List NodeId) (t : Tree) (m : NodeId)
    (bare : ((cs.foldl detach t).get m).hooked = false) :
    m ∈ cs ∨ (t.get m).hooked = false := by
  rw [get_foldl_detach] at bare
  split at bare
  · next cut => exact .inl cut.1
  · exact .inr bare

/-- Pruning is the only operation that takes hooks away, and it cuts the nodes off at the same time.
So a node that has lost its hooks is cut off, and it is not the root. -/
theorem Reachable.cut_of_not_hooked (reach : t.Reachable) {m : NodeId}
    (bare : (t.get m).hooked = false) : (t.get m).parent = none ∧ m ≠ root := by
  induction reach with
  | new name =>
      cases m with
      | zero => cases bare
      | succ m => cases bare
  | @add t parent h inside name duration ih =>
      rw [get_add inside] at bare ⊢
      split at bare
      · cases bare
      · next old =>
        rw [if_neg old]
        split at bare
        · next up =>
          rw [if_pos up]
          exact ih bare
        · next other =>
          rw [if_neg other]
          exact ih bare
  | @setDataDir t n _ _ dir ih =>
      have hooked : ((t.setDataDir n dir).get m).hooked = (t.get m).hooked :=
        proj_get_update Node.hooked (fun _ => by rfl) t n m
      have parent : ((t.setDataDir n dir).get m).parent = (t.get m).parent :=
        proj_get_update Node.parent (fun _ => by rfl) t n m
      rw [parent]
      exact ih (hooked ▸ bare)
  | @prune t n h inside max ih =>
      have wf := h.wellFormed
      have hooked : ((t.prune n max).get m).hooked =
          (((t.prunedChildren n max).foldl detach t).get m).hooked :=
        proj_get_update Node.hooked (fun _ => by rfl) _ n m
      rw [hooked] at bare
      rw [parent_prune]
      obtain pruned | bare := hooked_of_detach _ t m bare
      · have child : m ∈ (t.get n).children := (List.mem_filter.1 pruned).1
        exact ⟨if_pos pruned, Nat.ne_of_gt (Nat.zero_lt_of_lt (wf.lt_child n m child))⟩
      · obtain ⟨cut, other⟩ := ih bare
        rw [cut]
        exact ⟨ite_self _, other⟩
  | @reportFailure t n _ _ failure ih =>
      have same := pristine_reportFailure t n failure
      rw [parent_eq_of_pristine same]
      exact ih (hooked_eq_of_pristine same m ▸ bare)
  | @run t n world s h _ options hooks ended ih =>
      have same := pristine_of_ended h.wellFormed ended
      rw [parent_eq_of_pristine same]
      exact ih (hooked_eq_of_pristine same m ▸ bare)

/-- Nodes that hang together with the root have their hooks. -/
theorem Reachable.hooked_of_attached (reach : t.Reachable) {m : NodeId}
    (attached : root ∈ t.ancestors m) : (t.get m).hooked = true := by
  by_contra bare
  obtain ⟨cut, other⟩ := reach.cut_of_not_hooked (Bool.eq_false_iff.2 bare)
  rw [ancestors, cut] at attached
  exact other (List.mem_singleton.1 attached).symm

end LostHooks

section Untouched

/-- Making a tree does not touch its nodes. -/
theorem Untouched.new (name : String) : (Tree.new name).Untouched := by
  intro n
  cases n with
  | zero => exact ⟨rfl, rfl⟩
  | succ n => exact ⟨rfl, rfl⟩

theorem Untouched.add (untouched : t.Untouched) (inside : parent < t.size) (name : String)
    (duration : Duration) : (t.add parent name duration).2.Untouched := by
  intro n
  rw [Idle, get_add inside]
  split
  · exact ⟨rfl, rfl⟩
  · split
    · exact untouched n
    · exact untouched n

end Untouched

/-- A suite with two cases. -/
def twoCases : Tree :=
  (((Tree.new "suite").add 0 "first" .quick).2.add 0 "second" .quick).2

theorem twoCases_reachable : twoCases.Reachable :=
  .add (.add (.new "suite") (by decide) "first" .quick) (by decide) "second" .quick

theorem twoCases_below : twoCases.below root = .node 1 .nil (.node 2 .nil .nil) := by
  simp [below, belowAll, twoCases, add, Tree.new, update, get, size, root]

theorem twoCases_untouched : twoCases.Untouched :=
  ((Untouched.new "suite").add (by decide) "first" .quick).add (by decide) "second" .quick

end SuiteTree.Tree
