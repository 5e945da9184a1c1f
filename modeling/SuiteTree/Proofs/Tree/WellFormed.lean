import Mathlib.Tactic.ByContra
import SuiteTree.Proofs.Tree.Pristine

/-!
# Well-formed trees

In a well-formed tree the links to parents and to children agree, children are younger than their
parents, and every list of children is in the order of creation. The way up from a node then leads
from a child to its parent until there is none, and the forest below a node holds exactly the nodes
whose way up meets it. What lies below two different children of a node has nothing in common.

Everything here is about links, so it carries over between trees with the same pristine form.
-/

namespace SuiteTree.Tree

/-- The links of the nodes agree with each other and lead from older nodes to younger ones. -/
structure WellFormed (t : Tree) : Prop where
  root_lt_size : root < t.size
  parent_iff : ∀ p c, (t.get c).parent = some p ↔ c ∈ (t.get p).children
  lt_child : ∀ p, ∀ c ∈ (t.get p).children, p < c
  child_lt_size : ∀ p, ∀ c ∈ (t.get p).children, c < t.size
  increasing : ∀ p, (t.get p).children.Pairwise (· < ·)

theorem WellFormed.of_pristine {t u : Tree} (wf : t.WellFormed) (same : t.pristine = u.pristine) :
    u.WellFormed where
  root_lt_size := size_eq_of_pristine same ▸ wf.root_lt_size
  parent_iff p c := by
    rw [← parent_eq_of_pristine same, ← children_eq_of_pristine same]
    exact wf.parent_iff p c
  lt_child p := by
    rw [← children_eq_of_pristine same]
    exact wf.lt_child p
  child_lt_size p := by
    rw [← children_eq_of_pristine same, ← size_eq_of_pristine same]
    exact wf.child_lt_size p
  increasing p := by
    rw [← children_eq_of_pristine same]
    exact wf.increasing p

section Ancestors

variable {t : Tree} {a b m n p : NodeId}

theorem ancestors_of_lt (link : (t.get n).parent = some p) (down : p < n) :
    t.ancestors n = n :: t.ancestors p := by
  rw [ancestors, link]
  simp [down]

theorem mem_ancestors_self (t : Tree) (n : NodeId) : n ∈ t.ancestors n := by
  unfold ancestors
  split
  · split <;> simp
  · simp

/-- A node on the way up from `n` that is not `n` itself is on the way up from the parent. -/
theorem parent_of_mem_ancestors (mem : a ∈ t.ancestors n) (ne : a ≠ n) :
    ∃ p, (t.get n).parent = some p ∧ p < n ∧ a ∈ t.ancestors p := by
  unfold ancestors at mem
  split at mem
  · next p link =>
    split at mem
    · next down => exact ⟨p, link, down, (List.mem_cons.1 mem).resolve_left ne⟩
    · exact absurd (List.mem_singleton.1 mem) ne
  · exact absurd (List.mem_singleton.1 mem) ne

theorem le_of_mem_ancestors (mem : a ∈ t.ancestors n) : a ≤ n := by
  induction n using Nat.strongRecOn with
  | ind n ih =>
      by_cases same : a = n
      · exact Nat.le_of_eq same
      · obtain ⟨p, _, down, up⟩ := parent_of_mem_ancestors mem same
        exact Nat.le_of_lt (Nat.lt_of_le_of_lt (ih p down up) down)

/-- The way up to a node begins at a node. -/
theorem lt_size_of_mem_ancestors (mem : a ∈ t.ancestors n) (inside : a < t.size) : n < t.size := by
  by_contra outside
  have link : (t.get n).parent = none := by
    rw [get_of_size_le (Nat.not_lt.1 outside)]
    rfl
  rw [ancestors, link] at mem
  exact outside (List.mem_singleton.1 mem ▸ inside)

theorem eq_root_of_mem_ancestors (mem : a ∈ t.ancestors root) : a = root :=
  Nat.le_zero.1 (le_of_mem_ancestors mem)

theorem mem_ancestors_trans (first : a ∈ t.ancestors m) (second : m ∈ t.ancestors n) :
    a ∈ t.ancestors n := by
  induction n using Nat.strongRecOn with
  | ind n ih =>
      by_cases same : m = n
      · exact same ▸ first
      · obtain ⟨p, link, down, up⟩ := parent_of_mem_ancestors second same
        rw [ancestors_of_lt link down]
        exact List.mem_cons_of_mem _ (ih p down up)

/-- Of two nodes on the way up from a third, one is on the way up from the other. -/
theorem mem_ancestors_total (ha : a ∈ t.ancestors n) (hb : b ∈ t.ancestors n) :
    a ∈ t.ancestors b ∨ b ∈ t.ancestors a := by
  induction n using Nat.strongRecOn with
  | ind n ih =>
      by_cases sameA : a = n
      · exact .inr (sameA ▸ hb)
      by_cases sameB : b = n
      · exact .inl (sameB ▸ ha)
      obtain ⟨p, link, down, upA⟩ := parent_of_mem_ancestors ha sameA
      obtain ⟨q, link', _, upB⟩ := parent_of_mem_ancestors hb sameB
      obtain rfl : p = q := Option.some.inj (link.symm.trans link')
      exact ih p down upA upB

theorem eq_of_mem_ancestors (ha : a ∈ t.ancestors b) (hb : b ∈ t.ancestors a) : a = b :=
  Nat.le_antisymm (le_of_mem_ancestors ha) (le_of_mem_ancestors hb)

/-- A node that is neither above nor below `c` is not above any node below `c` either. -/
theorem not_mem_ancestors_of_apart {c : NodeId} (above : m ∉ t.ancestors c)
    (below : c ∉ t.ancestors m) (mem : c ∈ t.ancestors n) : m ∉ t.ancestors n := by
  intro up
  obtain h | h := mem_ancestors_total up mem
  · exact above h
  · exact below h

/-- The nodes above `n`, nearest first. -/
theorem mem_drop_ancestors_iff :
    a ∈ (t.ancestors n).drop 1 ↔ a ∈ t.ancestors n ∧ a ≠ n := by
  constructor
  · intro mem
    refine ⟨List.mem_of_mem_drop mem, ?_⟩
    rintro rfl
    unfold ancestors at mem
    split at mem
    · split at mem
      · next p _ down => exact absurd (le_of_mem_ancestors (by simpa using mem)) (Nat.not_le.2 down)
      · simp at mem
    · simp at mem
  · rintro ⟨mem, ne⟩
    obtain ⟨p, link, down, up⟩ := parent_of_mem_ancestors mem ne
    simpa [ancestors_of_lt link down] using up

end Ancestors

namespace WellFormed

variable {t : Tree} {a b c m n p : NodeId}

theorem ancestors_child (wf : t.WellFormed) (child : c ∈ (t.get p).children) :
    t.ancestors c = c :: t.ancestors p :=
  ancestors_of_lt ((wf.parent_iff p c).2 child) (wf.lt_child p c child)

theorem mem_ancestors_child (wf : t.WellFormed) (child : c ∈ (t.get p).children) :
    p ∈ t.ancestors c := by
  rw [wf.ancestors_child child]
  exact List.mem_cons_of_mem _ (mem_ancestors_self t p)

/-- Going up from a node to one above it passes through a child of the latter. -/
theorem exists_child_of_mem_ancestors (wf : t.WellFormed) (mem : a ∈ t.ancestors n) (ne : a ≠ n) :
    ∃ c ∈ (t.get a).children, c ∈ t.ancestors n := by
  induction n using Nat.strongRecOn with
  | ind n ih =>
      obtain ⟨p, link, down, up⟩ := parent_of_mem_ancestors mem ne
      by_cases same : a = p
      · subst same
        exact ⟨n, (wf.parent_iff a n).1 link, mem_ancestors_self t n⟩
      · obtain ⟨c, child, upper⟩ := ih p down up same
        exact ⟨c, child, by rw [ancestors_of_lt link down]; exact List.mem_cons_of_mem _ upper⟩

theorem mem_ancestors_iff (wf : t.WellFormed) :
    a ∈ t.ancestors n ↔ n = a ∨ ∃ c ∈ (t.get a).children, c ∈ t.ancestors n := by
  constructor
  · intro mem
    by_cases same : n = a
    · exact .inl same
    · exact .inr (wf.exists_child_of_mem_ancestors mem (Ne.symm same))
  · rintro (rfl | ⟨c, child, up⟩)
    · exact mem_ancestors_self t n
    · exact mem_ancestors_trans (wf.mem_ancestors_child child) up

/-- No node is above its own parent. -/
theorem not_mem_ancestors_parent (wf : t.WellFormed) (child : c ∈ (t.get p).children) :
    c ∉ t.ancestors p :=
  fun mem => Nat.not_le.2 (wf.lt_child p c child) (le_of_mem_ancestors mem)

/-- The subtrees of two children of a node have no node in common. -/
theorem child_eq_of_mem_ancestors (wf : t.WellFormed) (hb : b ∈ (t.get p).children)
    (hc : c ∈ (t.get p).children) (upB : b ∈ t.ancestors n) (upC : c ∈ t.ancestors n) : b = c := by
  by_contra ne
  obtain up | up := mem_ancestors_total upB upC
  · rw [wf.ancestors_child hc] at up
    exact wf.not_mem_ancestors_parent hb ((List.mem_cons.1 up).resolve_left ne)
  · rw [wf.ancestors_child hb] at up
    exact wf.not_mem_ancestors_parent hc ((List.mem_cons.1 up).resolve_left (Ne.symm ne))

/-- What is at or below one child of a node is neither above nor below another one. -/
theorem apart_of_children (wf : t.WellFormed) (hb : b ∈ (t.get p).children)
    (hc : c ∈ (t.get p).children) (ne : b ≠ c) (mem : b ∈ t.ancestors m) :
    m ∉ t.ancestors c ∧ c ∉ t.ancestors m := by
  constructor
  · intro up
    exact ne (wf.child_eq_of_mem_ancestors hb hc (mem_ancestors_trans mem up)
      (mem_ancestors_self t c))
  · intro up
    exact ne (wf.child_eq_of_mem_ancestors hb hc mem up)

theorem belowAll_cons_child (wf : t.WellFormed) (child : c ∈ (t.get n).children)
    (rest : List NodeId) :
    t.belowAll n (c :: rest) = .node c (t.below c) (t.belowAll n rest) := by
  rw [belowAll_cons, if_pos ⟨wf.lt_child n c child, wf.child_lt_size n c child⟩]

/-- Induction over children lists: what holds of the children of a child and of the children after
it holds of the list that begins with it. -/
theorem children_induction (wf : t.WellFormed) {motive : NodeId → List NodeId → Prop}
    (nil : ∀ n, motive n [])
    (cons : ∀ n c rest, (∀ d ∈ c :: rest, d ∈ (t.get n).children) → motive c (t.get c).children →
      motive n rest → motive n (c :: rest))
    (n : NodeId) (cs : List NodeId) (children : ∀ c ∈ cs, c ∈ (t.get n).children) :
    motive n cs := by
  refine (below.mutual_induct t (fun n => motive n (t.get n).children)
    (fun n cs => (∀ c ∈ cs, c ∈ (t.get n).children) → motive n cs) ?_ ?_ ?_ ?_).2 n cs children
  · intro n ih
    exact ih fun _ => id
  · intro n _
    exact nil n
  · intro n c rest _ _ below beside children
    exact cons n c rest children below (beside fun d mem => children d (List.mem_cons_of_mem _ mem))
  · intro n c rest outside _ children
    have child := children c List.mem_cons_self
    exact absurd ⟨wf.lt_child n c child, wf.child_lt_size n c child⟩ outside

theorem mem_belowAll_iff (wf : t.WellFormed) (n : NodeId) (cs : List NodeId)
    (children : ∀ c ∈ cs, c ∈ (t.get n).children) :
    m ∈ (t.belowAll n cs).preorder ↔ ∃ c ∈ cs, c ∈ t.ancestors m := by
  refine wf.children_induction
    (motive := fun n cs => m ∈ (t.belowAll n cs).preorder ↔ ∃ c ∈ cs, c ∈ t.ancestors m)
    ?_ ?_ n cs children
  · intro n
    simp [belowAll, Forest.preorder]
  · intro n c rest children below beside
    have up : c ∈ t.ancestors m ↔ m = c ∨ m ∈ (t.below c).preorder := by
      rw [Tree.below, below, wf.mem_ancestors_iff]
    simp [wf.belowAll_cons_child (children c List.mem_cons_self), Forest.preorder, beside, up,
      or_assoc]

/-- The nodes of a subtree are those whose way up meets its root. -/
theorem mem_preorder_iff (wf : t.WellFormed) : m ∈ t.preorder n ↔ n ∈ t.ancestors m := by
  rw [preorder, List.mem_cons, below, wf.mem_belowAll_iff n _ fun _ => id, wf.mem_ancestors_iff]

theorem mem_below_iff (wf : t.WellFormed) :
    m ∈ (t.below n).preorder ↔ n ∈ t.ancestors m ∧ m ≠ n := by
  rw [below, wf.mem_belowAll_iff n _ fun _ => id]
  constructor
  · rintro ⟨c, child, up⟩
    refine ⟨wf.mem_ancestors_iff.2 (.inr ⟨c, child, up⟩), ?_⟩
    rintro rfl
    exact wf.not_mem_ancestors_parent child up
  · rintro ⟨up, ne⟩
    exact (wf.mem_ancestors_iff.1 up).resolve_left ne

end WellFormed

end SuiteTree.Tree
