import SuiteTree.Proofs.Tree.Reachable

/-!
# Pruned trees

Pruning acts on two kinds of nodes: the pruned one loses children from its list, and these lose their
parents and their hooks. What is known of a node stays, and so do all other links. The way up from a
node is therefore what it was, unless it went through a child that was cut off; then it ends there,
and the rest of it is lost, with the names and data directories that came from it.
-/

namespace SuiteTree.Tree

/-- Both trees hold the same node, and it inherits the same. -/
structure SameNode (t u : Tree) (m : NodeId) : Prop where
  get : t.get m = u.get m
  dataDir : t.dataDir m = u.dataDir m
  pathNames : t.pathNames m = u.pathNames m

variable {t : Tree} {c d m n : NodeId} {max : Duration}

/-- Pruning changes nothing of a node but its links and hooks. -/
theorem facts_prune (t : Tree) (n : NodeId) (max : Duration) (m : NodeId) :
    ((t.prune n max).get m).facts = (t.get m).facts := by
  have detached : (((t.prunedChildren n max).foldl detach t).get m).facts = (t.get m).facts := by
    rw [get_foldl_detach]
    split <;> rfl
  rw [prune, ← detached]
  exact proj_get_update Node.facts (fun _ => by rfl) _ n m

theorem name_get_prune (t : Tree) (n : NodeId) (max : Duration) (m : NodeId) :
    ((t.prune n max).get m).name = (t.get m).name :=
  congrArg Facts.name (facts_prune t n max m)

theorem duration_get_prune (t : Tree) (n : NodeId) (max : Duration) (m : NodeId) :
    ((t.prune n max).get m).duration = (t.get m).duration :=
  congrArg Facts.duration (facts_prune t n max m)

theorem dataDir_get_prune (t : Tree) (n : NodeId) (max : Duration) (m : NodeId) :
    ((t.prune n max).get m).dataDir = (t.get m).dataDir :=
  congrArg Facts.dataDir (facts_prune t n max m)

theorem mem_keptChildren_iff :
    d ∈ t.keptChildren n max ↔ d ∈ (t.get n).children ∧ (t.get d).duration ≤ max := by
  simp [keptChildren]

theorem mem_prunedChildren_iff :
    d ∈ t.prunedChildren n max ↔ d ∈ (t.get n).children ∧ ¬(t.get d).duration ≤ max := by
  simp [prunedChildren]

/-- Pruning makes no new links. -/
theorem children_prune_subset (inside : n < t.size) (max : Duration) (m : NodeId) :
    ((t.prune n max).get m).children ⊆ (t.get m).children := by
  rw [children_prune inside]
  split
  · next same =>
      subst same
      exact fun c kept => (mem_keptChildren_iff.1 kept).1
  · exact List.Subset.refl _

namespace WellFormed

/-- What pruning makes of a node: node `n` keeps the children that do not take too long, the others
are cut off and lose their hooks, and no other node changes. -/
theorem get_prune (wf : t.WellFormed) (inside : n < t.size) (max : Duration) (m : NodeId) :
    (t.prune n max).get m =
      if m = n then { t.get m with children := t.keptChildren n max }
      else if m ∈ t.prunedChildren n max then { t.get m with parent := none, hooked := false }
      else t.get m := by
  have child : ∀ c ∈ t.prunedChildren n max, c ∈ (t.get n).children := fun c mem =>
    (mem_prunedChildren_iff.1 mem).1
  rw [Tree.prune, get_update, size_foldl_detach, get_foldl_detach]
  by_cases same : m = n
  · have own : m ∉ t.prunedChildren n max := fun mem =>
      Nat.lt_irrefl n (same ▸ wf.lt_child n m (child m mem))
    rw [if_pos ⟨same, inside⟩, if_pos same, if_neg fun h => own h.1]
  · rw [if_neg fun h => same h.1, if_neg same]
    by_cases mem : m ∈ t.prunedChildren n max
    · rw [if_pos ⟨mem, wf.child_lt_size n m (child m mem)⟩, if_pos mem]
    · rw [if_neg fun h => mem h.1, if_neg mem]

/-- Pruning a node twice is pruning it once, with the shorter of the two durations. -/
theorem prune_prune (wf : t.WellFormed) (inside : n < t.size) (a b : Duration) :
    (t.prune n a).prune n b = t.prune n (a.shorter b) := by
  have children : ((t.prune n a).get n).children = t.keptChildren n a := by
    rw [children_prune inside, if_pos rfl]
  have kept : (t.prune n a).keptChildren n b = t.keptChildren n (a.shorter b) := by
    simp only [keptChildren, children, duration_get_prune, List.filter_filter, Duration.le_shorter_iff,
      Bool.decide_and, Bool.and_comm]
  have pruned : ∀ m, m ∈ t.prunedChildren n (a.shorter b) ↔
      m ∈ (t.prune n a).prunedChildren n b ∨ m ∈ t.prunedChildren n a := by
    intro m
    simp only [mem_prunedChildren_iff, children, duration_get_prune, mem_keptChildren_iff,
      Duration.le_shorter_iff]
    by_cases first : (t.get m).duration ≤ a
    · simp [first]
    · simp [first]
  apply eq_of_get
  · simp
  · intro m
    rw [(wf.prune inside a).get_prune (by simpa using inside), wf.get_prune inside,
      wf.get_prune inside, kept]
    by_cases same : m = n
    · simp [same]
    · by_cases first : m ∈ t.prunedChildren n a
      · simp [same, first, pruned]
      · simp [same, first, pruned]

end WellFormed

/-- What a node inherits after pruning comes from what is left of its way up. -/
theorem pathNames_prune (t : Tree) (n : NodeId) (max : Duration) (m : NodeId) :
    (t.prune n max).pathNames m =
      (((t.prune n max).ancestors m).map fun k => (t.get k).name).reverse := by
  simp only [pathNames, name_get_prune]

theorem dataDir_prune (t : Tree) (n : NodeId) (max : Duration) (m : NodeId) :
    (t.prune n max).dataDir m =
      ((t.prune n max).ancestors m).findSome? fun k => (t.get k).dataDir := by
  simp only [dataDir, dataDir_get_prune]

namespace WellFormed

/-- The way up from below a child that was cut off ends at the child. -/
theorem ancestors_below_cut (wf : t.WellFormed) (cut : d ∈ t.prunedChildren n max)
    (up : d ∈ t.ancestors m) : t.ancestors m = (t.prune n max).ancestors m ++ t.ancestors n := by
  have child := (mem_prunedChildren_iff.1 cut).1
  induction m using Nat.strongRecOn with
  | ind m ih =>
      by_cases same : d = m
      · subst same
        have free : ((t.prune n max).get d).parent = none := by rw [parent_prune, if_pos cut]
        have top : (t.prune n max).ancestors d = [d] := by rw [Tree.ancestors, free]
        rw [wf.ancestors_child child, top]
        rfl
      · obtain ⟨p, link, down, up'⟩ := parent_of_mem_ancestors up same
        have kept : m ∉ t.prunedChildren n max := fun mem => by
          have sibling := (wf.parent_iff n m).2 (mem_prunedChildren_iff.1 mem).1
          obtain rfl : p = n := Option.some.inj (link.symm.trans sibling)
          exact wf.not_mem_ancestors_parent child up'
        have link' : ((t.prune n max).get m).parent = some p := by
          rw [parent_prune, if_neg kept, link]
        rw [ancestors_of_lt link down, ancestors_of_lt link' down, ih p down up', List.cons_append]

/-- What is below the child loses what came from above: the beginnings of the paths, and the data
directories of those that have none below. -/
theorem inherited_below_cut (wf : t.WellFormed) (cut : d ∈ t.prunedChildren n max)
    (up : d ∈ t.ancestors m) :
    t.pathNames m = t.pathNames n ++ (t.prune n max).pathNames m ∧
      t.dataDir m = ((t.prune n max).dataDir m).or (t.dataDir n) := by
  have way := wf.ancestors_below_cut cut up
  constructor
  · rw [pathNames_prune, pathNames, pathNames, way, List.map_append, List.reverse_append]
  · rw [dataDir_prune, dataDir, dataDir, way, List.findSome?_append]

end WellFormed

/-- The way up is what it was if it does not go through a child that was cut off. -/
theorem ancestors_prune_of_uncut (uncut : ∀ d ∈ t.prunedChildren n max, d ∉ t.ancestors m) :
    (t.prune n max).ancestors m = t.ancestors m := by
  induction m using Nat.strongRecOn with
  | ind m ih =>
      have stays : m ∉ t.prunedChildren n max := fun mem => uncut m mem (mem_ancestors_self t m)
      have link : ((t.prune n max).get m).parent = (t.get m).parent := by
        rw [parent_prune, if_neg stays]
      unfold ancestors
      rw [link]
      cases up : (t.get m).parent with
      | none => rfl
      | some p =>
          by_cases down : p < m
          · have rest := ih p down fun d mem above => uncut d mem <| by
              rw [ancestors_of_lt up down]
              exact List.mem_cons_of_mem _ above
            simp [down, rest]
          · simp [down]

/-- Pruning makes ways up shorter, and no longer. -/
theorem WellFormed.ancestors_prune_subset (wf : t.WellFormed) (n : NodeId) (max : Duration)
    (m : NodeId) : (t.prune n max).ancestors m ⊆ t.ancestors m := by
  by_cases cut : ∃ d ∈ t.prunedChildren n max, d ∈ t.ancestors m
  · obtain ⟨d, pruned, up⟩ := cut
    rw [wf.ancestors_below_cut pruned up]
    exact List.subset_append_left _ _
  · rw [ancestors_prune_of_uncut fun d pruned up => cut ⟨d, pruned, up⟩]
    exact List.Subset.refl _

namespace WellFormed

/-- Below a child that is kept no way up is cut. -/
theorem ancestors_prune_of_kept (wf : t.WellFormed) (kept : c ∈ t.keptChildren n max)
    (up : c ∈ t.ancestors m) : (t.prune n max).ancestors m = t.ancestors m := by
  apply ancestors_prune_of_uncut
  intro d pruned above
  obtain ⟨child, short⟩ := mem_keptChildren_iff.1 kept
  obtain ⟨sibling, long⟩ := mem_prunedChildren_iff.1 pruned
  obtain rfl := wf.child_eq_of_mem_ancestors sibling child above up
  exact long short

/-- What is left below the pruned node is what was below the children that it keeps. -/
theorem mem_below_prune_iff (wf : t.WellFormed) (inside : n < t.size) :
    m ∈ ((t.prune n max).below n).preorder ↔ ∃ c ∈ t.keptChildren n max, c ∈ t.ancestors m := by
  have wf' := wf.prune inside max
  have children : ((t.prune n max).get n).children = t.keptChildren n max := by
    rw [children_prune inside, if_pos rfl]
  rw [below, wf'.mem_belowAll_iff n _ fun _ => id, children]
  constructor
  · rintro ⟨c, kept, up⟩
    exact ⟨c, kept, wf.ancestors_prune_subset n max m up⟩
  · rintro ⟨c, kept, up⟩
    exact ⟨c, kept, wf.ancestors_prune_of_kept kept up ▸ up⟩

/-- A node below a child that is kept stays the same, however long it takes. -/
theorem sameNode_prune (wf : t.WellFormed) (inside : n < t.size)
    (kept : c ∈ t.keptChildren n max) (up : c ∈ t.ancestors m) :
    (t.prune n max).SameNode t m := by
  have child := (mem_keptChildren_iff.1 kept).1
  have way := wf.ancestors_prune_of_kept kept up
  have ne : m ≠ n := by
    rintro rfl
    exact wf.not_mem_ancestors_parent child up
  have stays : m ∉ t.prunedChildren n max := by
    intro pruned
    obtain ⟨sibling, long⟩ := mem_prunedChildren_iff.1 pruned
    obtain rfl := wf.child_eq_of_mem_ancestors sibling child (mem_ancestors_self t m) up
    exact long (mem_keptChildren_iff.1 kept).2
  refine ⟨?_, ?_, ?_⟩
  · rw [wf.get_prune inside, if_neg ne, if_neg stays]
  · rw [dataDir_prune, way, dataDir]
  · rw [pathNames_prune, way, pathNames]

end WellFormed

end SuiteTree.Tree
