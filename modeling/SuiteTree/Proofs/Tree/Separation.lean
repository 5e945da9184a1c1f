import SuiteTree.Proofs.Tree.Pruned

/-!
# Two sides of a cut

Pruning cuts one link, that from a case to its parent. The case stays in the tree, with a number and
with all links below it, so it can still be changed. But the link was the only one between what is
below the case and the rest, and no change makes a new one. What is done on one side is therefore
neither seen nor felt on the other.

A side of a tree is a set of nodes that no link leads into or out of. There are two facts about a
change to a node. On the side of the node, what it does depends on this side only; on the other side
it does nothing. By induction over the changes, each side ends up as if nothing had been done on the
other.
-/

namespace SuiteTree

/-- A change to a tree that neither makes nor runs nodes. -/
inductive Change
  | declareData (node : NodeId) (dir : String)
  | reportFailure (node : NodeId) (failure : Failure)
  | prune (node : NodeId) (max : Duration)

/-- The node that is changed. -/
def Change.node : Change → NodeId
  | declareData n _ => n
  | reportFailure n _ => n
  | prune n _ => n

namespace Tree

/-- The tree after a change. -/
def changed (t : Tree) : Change → Tree
  | .declareData n dir => t.setDataDir n dir
  | .reportFailure n failure => t.reportFailure n failure
  | .prune n max => t.prune n max

/-- The tree after some changes, one after the other. -/
def changedAll (t : Tree) (xs : List Change) : Tree :=
  xs.foldl changed t

/-- No link leads from a node of this side to one of the other, nor the other way. -/
def Side (t : Tree) (side : NodeId → Prop) : Prop :=
  ∀ p, ∀ c ∈ (t.get p).children, side c ↔ side p

/-- The trees have the same nodes on this side. -/
structure SameOn (side : NodeId → Prop) (t u : Tree) : Prop where
  size : t.size = u.size
  get : ∀ m, side m → t.get m = u.get m

variable {t u : Tree} {side : NodeId → Prop} {x : Change} {xs : List Change} {a d m n p : NodeId}

@[simp] theorem size_changed (t : Tree) (x : Change) : (t.changed x).size = t.size := by
  cases x with
  | declareData n dir => exact size_update t n _
  | reportFailure n failure => exact size_eq_of_pristine (pristine_reportFailure t n failure)
  | prune n max => exact size_prune t n max

theorem inside_changed (inside : ∀ y ∈ x :: xs, y.node < t.size) :
    x.node < t.size ∧ ∀ y ∈ xs, y.node < (t.changed x).size := by
  rw [size_changed]
  exact List.forall_mem_cons.1 inside

theorem WellFormed.changed (wf : t.WellFormed) (inside : x.node < t.size) :
    (t.changed x).WellFormed := by
  cases x with
  | declareData n dir => exact wf.setDataDir n dir
  | reportFailure n failure => exact wf.of_pristine (pristine_reportFailure t n failure).symm
  | prune n max => exact wf.prune inside max

/-- A change makes no new links. -/
theorem children_changed_subset (inside : x.node < t.size) (p : NodeId) :
    ((t.changed x).get p).children ⊆ (t.get p).children := by
  intro c child
  cases x with
  | declareData n dir =>
      have same : ((t.setDataDir n dir).get p).children = (t.get p).children :=
        proj_get_update Node.children (fun _ => by rfl) t n p
      exact same ▸ child
  | reportFailure n failure =>
      exact children_eq_of_pristine (pristine_reportFailure t n failure) p ▸ child
  | prune n max => exact children_prune_subset (n := n) inside max p child

namespace Side

theorem other (apart : t.Side side) : t.Side fun m => ¬side m :=
  fun p c child => not_congr (apart p c child)

theorem changed (apart : t.Side side) (inside : x.node < t.size) : (t.changed x).Side side :=
  fun p c child => apart p c (children_changed_subset inside p child)

/-- No way up leads to the other side. -/
theorem mem_ancestors (apart : t.Side side) (wf : t.WellFormed) (up : a ∈ t.ancestors m) :
    side a ↔ side m := by
  induction m using Nat.strongRecOn with
  | ind m ih =>
      by_cases same : a = m
      · rw [same]
      · obtain ⟨p, link, down, up'⟩ := parent_of_mem_ancestors up same
        exact (ih p down up').trans (apart p m ((wf.parent_iff p m).1 link)).symm

/-- A change does nothing on the other side. -/
theorem sameOn_changed (apart : t.Side side) (wf : t.WellFormed) (inside : x.node < t.size)
    (beyond : ¬side x.node) : SameOn side t (t.changed x) := by
  refine ⟨(size_changed t x).symm, fun m on => ?_⟩
  cases x with
  | declareData n dir =>
      have ne : m ≠ n := fun same => beyond (same ▸ on)
      exact (get_update_of_ne _ ne).symm
  | reportFailure n failure =>
      have above : m ∉ t.ancestors n := fun up => beyond ((apart.mem_ancestors wf up).1 on)
      exact (get_reportFailure_of_not_mem failure above).symm
  | prune n max =>
      have ne : m ≠ n := fun same => beyond (same ▸ on)
      have kept : m ∉ t.prunedChildren n max := fun mem =>
        beyond ((apart n m (mem_prunedChildren_iff.1 mem).1).1 on)
      have got : (t.prune n max).get m = t.get m := by
        rw [wf.get_prune (n := n) inside, if_neg ne, if_neg kept]
      exact got.symm

end Side

namespace SameOn

theorem trans {v : Tree} (first : SameOn side t u) (second : SameOn side u v) :
    SameOn side t v :=
  ⟨first.size.trans second.size, fun m on => (first.get m on).trans (second.get m on)⟩

theorem symm (same : SameOn side t u) : SameOn side u t :=
  ⟨same.size.symm, fun m on => (same.get m on).symm⟩

theorem ancestors (same : SameOn side t u) (apart : t.Side side) (wf : t.WellFormed)
    (on : side m) : t.ancestors m = u.ancestors m := by
  induction m using Nat.strongRecOn with
  | ind m ih =>
      unfold Tree.ancestors
      rw [← same.get m on]
      cases link : (t.get m).parent with
      | none => rfl
      | some p =>
          have child := (wf.parent_iff p m).1 link
          simp [wf.lt_child p m child, ih p (wf.lt_child p m child) ((apart p m child).1 on)]

/-- What a node inherits comes from its own side. -/
theorem sameNode (same : SameOn side t u) (apart : t.Side side) (wf : t.WellFormed)
    (on : side m) : t.SameNode u m := by
  have way : (t.ancestors m).map t.get = (u.ancestors m).map u.get := by
    rw [← same.ancestors apart wf on]
    apply List.map_congr_left
    intro a up
    exact same.get a ((apart.mem_ancestors wf up).2 on)
  have declared : ∀ v : Tree,
      v.dataDir m = ((v.ancestors m).map v.get).findSome? Node.dataDir := fun v => by
    rw [Tree.dataDir, List.findSome?_map]
    rfl
  have named : ∀ v : Tree,
      v.pathNames m = (((v.ancestors m).map v.get).map Node.name).reverse := fun v => by
    rw [Tree.pathNames, List.map_map]
    rfl
  exact ⟨same.get m on, by rw [declared, declared, way], by rw [named, named, way]⟩

/-- What a change does on its side depends on this side only. -/
theorem changed (same : SameOn side t u) (apart : t.Side side) (wf : t.WellFormed)
    (wf' : u.WellFormed) (inside : x.node < t.size) (on : side x.node) :
    SameOn side (t.changed x) (u.changed x) := by
  have inside' : x.node < u.size := same.size ▸ inside
  refine ⟨by rw [size_changed, size_changed, same.size], fun m mem => ?_⟩
  have node := same.get m mem
  cases x with
  | declareData n dir =>
      show (t.update n _).get m = (u.update n _).get m
      rw [get_update, get_update, node, same.size]
  | reportFailure n failure =>
      show (t.reportFailure n failure).get m = (u.reportFailure n failure).get m
      rw [get_reportFailure (n := n) inside, get_reportFailure (n := n) inside', node,
        same.ancestors (m := n) apart wf on]
  | prune n max =>
      have children := congrArg Node.children (same.get n on)
      have durations : ∀ c ∈ (t.get n).children, (t.get c).duration = (u.get c).duration :=
        fun c child => congrArg Node.duration (same.get c ((apart n c child).2 on))
      have kept : t.keptChildren n max = u.keptChildren n max := by
        rw [keptChildren, keptChildren, ← children]
        exact List.filter_congr fun c child => by rw [durations c child]
      have pruned : t.prunedChildren n max = u.prunedChildren n max := by
        rw [prunedChildren, prunedChildren, ← children]
        exact List.filter_congr fun c child => by rw [durations c child]
      show (t.prune n max).get m = (u.prune n max).get m
      rw [wf.get_prune (n := n) inside, wf'.get_prune (n := n) inside', node, kept, pruned]

/-- After some changes, a side is as if only the changes on this side had been made. -/
theorem changedAll [DecidablePred side] (same : SameOn side t u) (apart : t.Side side)
    (wf : t.WellFormed) (wf' : u.WellFormed) (inside : ∀ x ∈ xs, x.node < t.size) :
    SameOn side (t.changedAll xs) (u.changedAll (xs.filter fun x => side x.node)) := by
  induction xs generalizing t u with
  | nil => exact same
  | cons x xs ih =>
      obtain ⟨first, rest⟩ := inside_changed inside
      by_cases on : side x.node
      · rw [List.filter_cons_of_pos (by simpa using on)]
        exact ih (same.changed apart wf wf' first on) (apart.changed first) (wf.changed first)
          (wf'.changed (same.size ▸ first)) rest
      · rw [List.filter_cons_of_neg (by simpa using on)]
        exact ih ((apart.sameOn_changed wf first on).symm.trans same) (apart.changed first)
          (wf.changed first) wf' rest

end SameOn

/-- Sides stay sides. -/
theorem Side.changedAll (apart : t.Side side) (wf : t.WellFormed)
    (inside : ∀ x ∈ xs, x.node < t.size) :
    (t.changedAll xs).Side side ∧ (t.changedAll xs).WellFormed := by
  induction xs generalizing t with
  | nil => exact ⟨apart, wf⟩
  | cons x xs ih =>
      obtain ⟨first, rest⟩ := inside_changed inside
      exact ih (apart.changed first) (wf.changed first) rest

/-- What is below a child that is cut off becomes a side. -/
theorem side_prune {max : Duration} (wf : t.WellFormed) (inside : n < t.size) (cut : d ∈ t.prunedChildren n max) :
    (t.prune n max).Side (· ∈ t.preorder d) := by
  intro p c child
  have old := children_prune_subset inside max p child
  have ne : d ≠ c := by
    rintro rfl
    have link := ((wf.prune inside max).parent_iff p d).2 child
    rw [parent_prune, if_pos cut] at link
    cases link
  show c ∈ t.preorder d ↔ p ∈ t.preorder d
  rw [wf.mem_preorder_iff, wf.mem_preorder_iff, wf.ancestors_child old, List.mem_cons,
    or_iff_right ne]

/-- Whatever is changed, this side and the other one of the tree have nothing to do with each
other. -/
structure Separated (t : Tree) (side : List NodeId) (xs : List Change) : Prop where
  /-- No link crosses the border. -/
  children : ∀ p, ∀ c ∈ ((t.changedAll xs).get p).children, c ∈ side ↔ p ∈ side
  ancestors : ∀ m, ∀ a ∈ (t.changedAll xs).ancestors m, a ∈ side ↔ m ∈ side
  /-- Each side is as if nothing had been changed on the other. -/
  within : ∀ m ∈ side,
    SameNode (t.changedAll xs) (t.changedAll (xs.filter fun x => x.node ∈ side)) m
  beyond : ∀ m ∉ side,
    SameNode (t.changedAll xs) (t.changedAll (xs.filter fun x => x.node ∉ side)) m
  /-- No failure marks a node on the other side. -/
  unmarked : ∀ n failure m, ¬(m ∈ side ↔ n ∈ side) →
    ((t.changedAll xs).reportFailure n failure).get m = (t.changedAll xs).get m

theorem Side.separated {side : List NodeId} (apart : t.Side (· ∈ side)) (wf : t.WellFormed)
    (inside : ∀ x ∈ xs, x.node < t.size) : t.Separated side xs := by
  obtain ⟨apart', wf'⟩ := apart.changedAll wf inside
  have refl : ∀ side : NodeId → Prop, SameOn side t t := fun _ => ⟨rfl, fun _ _ => rfl⟩
  refine ⟨apart', fun m a up => apart'.mem_ancestors wf' up, fun m on => ?_, fun m off => ?_, ?_⟩
  · have same := (refl (· ∈ side)).changedAll apart wf wf inside
    exact same.sameNode apart' wf' on
  · have same := (refl (· ∉ side)).changedAll apart.other wf wf inside
    exact same.sameNode apart'.other wf' off
  · intro n failure m across
    apply get_reportFailure_of_not_mem
    exact fun up => across (apart'.mem_ancestors wf' up)

end Tree

/-- Pruning separates the subtree of a child from the rest of the tree. Whatever data directories are
declared, failures reported and children pruned afterwards, on whichever nodes: no link crosses the
cut, each side is as if only the changes on this side had been made, and no failure marks a node on
the other side. What the nodes of the subtree inherited from above the cut is lost to them. -/
theorem cut_off_both_ways {t : Tree} (reach : t.Reachable) {n : NodeId} (inside : n < t.size)
    {max : Duration} {d : NodeId} (child : d ∈ (t.get n).children)
    (long : max < (t.get d).duration) {xs : List Change} (nodes : ∀ x ∈ xs, x.node < t.size) :
    (t.prune n max).Separated (t.preorder d) xs ∧
      ∀ m ∈ t.preorder d, t.pathNames m = t.pathNames n ++ (t.prune n max).pathNames m ∧
        t.dataDir m = ((t.prune n max).dataDir m).or (t.dataDir n) := by
  have wf := reach.wellFormed
  have cut : d ∈ t.prunedChildren n max :=
    Tree.mem_prunedChildren_iff.2 ⟨child, Duration.not_le.2 long⟩
  constructor
  · apply (Tree.side_prune wf inside cut).separated (wf.prune inside max)
    simpa using nodes
  · intro m below
    exact wf.inherited_below_cut cut (wf.mem_preorder_iff.1 below)

/-- A case is cut off together with the case below it. Both sides go on being changed, and the lower
case is cut off in its turn. -/
theorem slow_case_cut_off_both_ways :
    let failure (line : Nat) : Failure := ⟨"a < b", "2", "1", "", "suite.rs", line⟩
    let t := ((Tree.twoCases.add 2 "slow" .takesForever).2.add 3 "inner" .extensive).2
    let xs : List Change := [.reportFailure 4 (failure 7), .declareData 0 "data", .prune 3 .quick,
      .reportFailure 4 (failure 8), .reportFailure 1 (failure 9), .declareData 3 "own"]
    t.Reachable ∧ 2 < t.size ∧ 3 ∈ (t.get 2).children ∧ Duration.extensive < (t.get 3).duration ∧
      (∀ x ∈ xs, x.node < t.size) ∧ (t.prune 2 .extensive).Separated (t.preorder 3) xs ∧
      ∀ m ∈ t.preorder 3, t.pathNames m = t.pathNames 2 ++ (t.prune 2 .extensive).pathNames m ∧
        t.dataDir m = ((t.prune 2 .extensive).dataDir m).or (t.dataDir 2) := by
  intro failure t xs
  have reach : t.Reachable := by
    refine .add (.add Tree.twoCases_reachable ?_ _ _) ?_ _ _
    · decide
    · decide
  have inside : 2 < t.size := by decide
  have child : 3 ∈ (t.get 2).children := by decide
  have long : Duration.extensive < (t.get 3).duration := by decide
  have nodes : ∀ x ∈ xs, x.node < t.size := by decide
  exact ⟨reach, inside, child, long, nodes, cut_off_both_ways reach inside child long nodes⟩

end SuiteTree
