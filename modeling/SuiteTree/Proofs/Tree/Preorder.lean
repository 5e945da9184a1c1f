import SuiteTree.Proofs.Tree.WellFormed

/-!
# The order of a subtree

Runs and reports go through a subtree in one order: every node comes before what is below it, and
the children of a node come in the order of their creation. In a well-formed tree this order meets
every node of the subtree once, and it goes one level deeper with each child.
-/

namespace SuiteTree.Tree

/-- How many nodes are above a node. -/
def depth (t : Tree) (n : NodeId) : Nat :=
  (t.ancestors n).length - 1

namespace WellFormed

variable {t : Tree} {c m n : NodeId}

/-- A node of the tree below a child is not in the tree below a later one. -/
private theorem not_mem_later_subtrees (wf : t.WellFormed) {rest : List NodeId}
    (children : ∀ d ∈ c :: rest, d ∈ (t.get n).children) (order : (c :: rest).Pairwise (· < ·))
    (up : c ∈ t.ancestors m) : m ∉ (t.belowAll n rest).preorder := by
  have later : ∀ d ∈ rest, d ∈ (t.get n).children := fun d mem =>
    children d (List.mem_cons_of_mem _ mem)
  intro mem
  obtain ⟨d, hd, up'⟩ := (wf.mem_belowAll_iff n rest later).1 mem
  have same : c = d :=
    wf.child_eq_of_mem_ancestors (children c List.mem_cons_self) (later d hd) up up'
  have less := (List.pairwise_cons.1 order).1 d hd
  exact Nat.lt_irrefl d (same ▸ less)

theorem nodup_belowAll (wf : t.WellFormed) (n : NodeId) (cs : List NodeId)
    (children : ∀ c ∈ cs, c ∈ (t.get n).children) (order : cs.Pairwise (· < ·)) :
    (t.belowAll n cs).preorder.Nodup := by
  refine wf.children_induction
    (motive := fun n cs => cs.Pairwise (· < ·) → (t.belowAll n cs).preorder.Nodup)
    ?_ ?_ n cs children order
  · intro n _
    rw [belowAll]
    exact List.nodup_nil
  · intro n c rest children below beside order
    rw [wf.belowAll_cons_child (children c List.mem_cons_self)]
    have own : c ∉ (t.below c).preorder := fun mem => (wf.mem_below_iff.1 mem).2 rfl
    have apart : ∀ m, c ∈ t.ancestors m → m ∉ (t.belowAll n rest).preorder := fun m up =>
      wf.not_mem_later_subtrees children order up
    refine List.nodup_cons.2 ⟨?_, List.nodup_append.2 ⟨?_, ?_, ?_⟩⟩
    · rw [List.mem_append, not_or]
      exact ⟨own, apart c (mem_ancestors_self t c)⟩
    · rw [Tree.below]
      exact below (wf.increasing c)
    · exact beside (List.pairwise_cons.1 order).2
    · rintro m mem _ mem' rfl
      exact apart m (wf.mem_below_iff.1 mem).1 mem'

/-- No node comes twice in a subtree. -/
theorem nodup_preorder (wf : t.WellFormed) (n : NodeId) : (t.preorder n).Nodup := by
  refine List.nodup_cons.2 ⟨fun mem => (wf.mem_below_iff.1 mem).2 rfl, ?_⟩
  rw [below]
  exact wf.nodup_belowAll n _ (fun _ => id) (wf.increasing n)

theorem depth_child (wf : t.WellFormed) (child : c ∈ (t.get n).children) :
    t.depth c = t.depth n + 1 := by
  have pos : 0 < (t.ancestors n).length := List.length_pos_of_mem (mem_ancestors_self t n)
  rw [depth, depth, wf.ancestors_child child, List.length_cons]
  omega

end WellFormed

theorem depth_root (t : Tree) : t.depth root = 0 := by
  have all : t.ancestors root = [root] := by
    unfold ancestors
    split
    · split
      · next p _ down => exact absurd down (Nat.not_lt_zero p)
      · rfl
    · rfl
  rw [depth, all]
  rfl

end SuiteTree.Tree
