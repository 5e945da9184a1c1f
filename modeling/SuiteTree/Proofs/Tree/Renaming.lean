import Mathlib.Data.List.Nodup
import SuiteTree.Proofs.Tree.Failures
import SuiteTree.Tree.Outline

/-!
# Trees with other numbers

`Tree.Copies` says that a subtree of one tree stands in another tree as well, under other numbers.
It is a statement about the lists of children alone. For well-formed trees it says all there is to
say of the links: the way up, the forest below a node, and that different nodes have different
numbers in the other tree.

`Tree.Agree` compares a part of the nodes. What the operations of a run do keeps such an agreement,
provided that what they make of the part depends on the part alone.
-/

namespace SuiteTree

/-- The forest with other numbers. -/
def Forest.map (ρ : NodeId → NodeId) : Forest → Forest
  | nil => nil
  | node id below beside => node (ρ id) (below.map ρ) (beside.map ρ)

theorem Forest.preorder_map (ρ : NodeId → NodeId) (forest : Forest) :
    (forest.map ρ).preorder = forest.preorder.map ρ := by
  induction forest with
  | nil => rfl
  | node n below beside ihBelow ihBeside =>
      simp only [map, preorder, ihBelow, ihBeside, List.map_cons, List.map_append]

theorem Forest.map_id (forest : Forest) : forest.map id = forest := by
  induction forest with
  | nil => rfl
  | node n below beside ihBelow ihBeside => rw [map, ihBelow, ihBeside, id]

namespace Tree

/-- What is at or below `c` in `t` has its counterpart in `u`, under the numbers `ρ`. -/
structure Copies (ρ : NodeId → NodeId) (t : Tree) (c : NodeId) (u : Tree) : Prop where
  inside : c < t.size
  inside' : ρ c < u.size
  children : ∀ m, c ∈ t.ancestors m → (u.get (ρ m)).children = (t.get m).children.map ρ

/-- The numbers `ρ` carry the way up in `t` to the way up in `u`, as far as certain nodes go. -/
structure Renames (ρ : NodeId → NodeId) (nodes : NodeId → Prop) (t u : Tree) : Prop where
  inside : ∀ n, nodes n → n < t.size
  inside' : ∀ n, nodes n → ρ n < u.size
  above : ∀ m n, nodes m → nodes n → (ρ m ∈ u.ancestors (ρ n) ↔ m ∈ t.ancestors n)

namespace Renames

variable {ρ : NodeId → NodeId} {nodes : NodeId → Prop} {t u : Tree} {m n : NodeId}

/-- Different nodes have different numbers in the other tree. -/
theorem injective (ren : Renames ρ nodes t u) (hm : nodes m) (hn : nodes n) (same : ρ m = ρ n) :
    m = n := by
  have up := (ren.above m n hm hn).1 (same ▸ mem_ancestors_self u (ρ m))
  have down := (ren.above n m hn hm).1 (same ▸ mem_ancestors_self u (ρ n))
  exact eq_of_mem_ancestors up down

theorem of_pristine {t' u' : Tree} (ren : Renames ρ nodes t u) (left : t'.pristine = t.pristine)
    (right : u'.pristine = u.pristine) : Renames ρ nodes t' u' where
  inside n hn := size_eq_of_pristine left ▸ ren.inside n hn
  inside' n hn := size_eq_of_pristine right ▸ ren.inside' n hn
  above m n hm hn := by
    rw [ancestors_eq_of_pristine left, ancestors_eq_of_pristine right]
    exact ren.above m n hm hn

/-- Every tree is a copy of itself. -/
theorem refl (t : Tree) : Renames id (· < t.size) t t where
  inside _ := id
  inside' _ := id
  above _ _ _ _ := Iff.rfl

end Renames

namespace Copies

variable {ρ : NodeId → NodeId} {t u : Tree} {c d m n p : NodeId}

theorem of_pristine {t' u' : Tree} (copies : Copies ρ t c u) (left : t'.pristine = t.pristine)
    (right : u'.pristine = u.pristine) : Copies ρ t' c u' where
  inside := size_eq_of_pristine left ▸ copies.inside
  inside' := size_eq_of_pristine right ▸ copies.inside'
  children m up := by
    rw [ancestors_eq_of_pristine left] at up
    rw [children_eq_of_pristine left, children_eq_of_pristine right]
    exact copies.children m up

theorem child (copies : Copies ρ t c u) (up : c ∈ t.ancestors p) (child : d ∈ (t.get p).children) :
    ρ d ∈ (u.get (ρ p)).children := by
  rw [copies.children p up]
  exact List.mem_map_of_mem child

/-- The subtree below one of the nodes has its counterpart as well. -/
theorem below (copies : Copies ρ t c u) (wf : t.WellFormed) (wf' : u.WellFormed)
    (up : c ∈ t.ancestors d) : Copies ρ t d u where
  inside := lt_size_of_mem_ancestors up copies.inside
  inside' := by
    by_cases same : c = d
    · exact same ▸ copies.inside'
    · obtain ⟨p, link, -, up'⟩ := parent_of_mem_ancestors up same
      exact wf'.child_lt_size _ _ (copies.child up' ((wf.parent_iff p d).1 link))
  children m mem := copies.children m (mem_ancestors_trans up mem)

theorem mem_ancestors (copies : Copies ρ t c u) (wf : t.WellFormed) (wf' : u.WellFormed)
    (hm : c ∈ t.ancestors m) (up : m ∈ t.ancestors n) : ρ m ∈ u.ancestors (ρ n) := by
  induction n using Nat.strongRecOn with
  | ind n ih =>
      by_cases same : m = n
      · exact same ▸ mem_ancestors_self u (ρ m)
      · obtain ⟨p, link, down, up'⟩ := parent_of_mem_ancestors up same
        have child := copies.child (mem_ancestors_trans hm up') ((wf.parent_iff p n).1 link)
        exact mem_ancestors_trans (ih p down up') (wf'.mem_ancestors_child child)

/-- No counterpart of a node below `m` is the counterpart of `m` or above it. -/
theorem not_mem_ancestors (copies : Copies ρ t c u) (wf : t.WellFormed) (wf' : u.WellFormed)
    (hm : c ∈ t.ancestors m) (up : m ∈ t.ancestors n) (ne : m ≠ n) :
    ρ n ∉ u.ancestors (ρ m) := by
  intro back
  obtain ⟨d, child, up'⟩ := wf.exists_child_of_mem_ancestors up ne
  have hd := mem_ancestors_trans hm (wf.mem_ancestors_child child)
  have above := copies.mem_ancestors wf wf' hd up'
  exact wf'.not_mem_ancestors_parent (copies.child hm child) (mem_ancestors_trans above back)

/-- Going up from counterparts meets only counterparts of what is met in the first tree. -/
theorem mem_ancestors_of_map (copies : Copies ρ t c u) (wf : t.WellFormed) (wf' : u.WellFormed)
    (hm : c ∈ t.ancestors m) (hn : c ∈ t.ancestors n) (up : ρ m ∈ u.ancestors (ρ n)) :
    m ∈ t.ancestors n := by
  induction n using Nat.strongRecOn generalizing m with
  | ind n ih =>
      by_cases top : c = n
      · subst top
        by_cases same : c = m
        · exact same ▸ mem_ancestors_self t c
        · exact absurd up (copies.not_mem_ancestors wf wf' hn hm same)
      obtain ⟨p, link, down, hp⟩ := parent_of_mem_ancestors hn top
      have child : n ∈ (t.get p).children := (wf.parent_iff p n).1 link
      have child' := copies.child hp child
      rw [wf'.ancestors_child child'] at up
      obtain same | up := List.mem_cons.1 up
      · -- The counterparts of `m` and `n` are one child of the counterpart of `p`.
        by_cases topM : c = m
        · subst topM
          have above := copies.mem_ancestors wf wf' hm hp
          rw [same] at above
          exact absurd above (wf'.not_mem_ancestors_parent child')
        obtain ⟨q, linkM, -, hq⟩ := parent_of_mem_ancestors hm topM
        have childM : m ∈ (t.get q).children := (wf.parent_iff q m).1 linkM
        have childM' := copies.child hq childM
        rw [same] at childM'
        have parents : ρ q = ρ p := Option.some.inj
          (((wf'.parent_iff _ _).2 childM').symm.trans ((wf'.parent_iff _ _).2 child'))
        have upper := ih p down hq hp (parents ▸ mem_ancestors_self u _)
        have sameParent : q = p := by
          by_contra ne
          exact copies.not_mem_ancestors wf wf' hq upper ne (parents ▸ mem_ancestors_self u _)
        subst sameParent
        have distinct : ((t.get q).children.map ρ).Nodup := by
          rw [← copies.children q hq]
          exact (wf'.increasing (ρ q)).imp Nat.ne_of_lt
        have eq := List.inj_on_of_nodup_map distinct childM child same
        exact eq ▸ mem_ancestors_self t m
      · rw [ancestors_of_lt link down]
        exact List.mem_cons_of_mem _ (ih p down hm hp up)

theorem renames (copies : Copies ρ t c u) (wf : t.WellFormed) (wf' : u.WellFormed) :
    Renames ρ (fun m => c ∈ t.ancestors m) t u where
  inside _ up := lt_size_of_mem_ancestors up copies.inside
  inside' _ up := (copies.below wf wf' up).inside'
  above _ _ hm hn := ⟨copies.mem_ancestors_of_map wf wf' hm hn, copies.mem_ancestors wf wf' hm⟩

/-- The forest below a counterpart is the forest below the node, with the other numbers. -/
theorem below_map (copies : Copies ρ t c u) (wf : t.WellFormed) (wf' : u.WellFormed)
    (up : c ∈ t.ancestors n) : u.below (ρ n) = (t.below n).map ρ := by
  have nested : ∀ n cs, (∀ d ∈ cs, d ∈ (t.get n).children) → c ∈ t.ancestors n →
      u.belowAll (ρ n) (cs.map ρ) = (t.belowAll n cs).map ρ := by
    intro n cs children
    refine wf.children_induction (motive := fun n cs => c ∈ t.ancestors n →
      u.belowAll (ρ n) (cs.map ρ) = (t.belowAll n cs).map ρ) ?_ ?_ n cs children
    · intro n _
      simp [belowAll, Forest.map]
    · intro n d rest children below beside up
      have child := children d List.mem_cons_self
      have up' := mem_ancestors_trans up (wf.mem_ancestors_child child)
      rw [List.map_cons, wf'.belowAll_cons_child (copies.child up child),
        wf.belowAll_cons_child child, Forest.map, beside up, Tree.below, Tree.below,
        copies.children d up', below up']
  rw [Tree.below, Tree.below, copies.children n up]
  exact nested n _ (fun _ => id) up

/-- Where the roots correspond, so does the whole way up. -/
theorem ancestors_map (copies : Copies ρ t root u) (wf : t.WellFormed) (wf' : u.WellFormed)
    (top : ρ root = root) (up : root ∈ t.ancestors n) :
    u.ancestors (ρ n) = (t.ancestors n).map ρ := by
  have alone : ∀ t : Tree, t.ancestors root = [root] := by
    intro t
    rw [ancestors]
    split
    · next p _ => exact if_neg (Nat.not_lt_zero p)
    · rfl
  induction n using Nat.strongRecOn with
  | ind n ih =>
      by_cases same : root = n
      · rw [← same, top, alone, alone, List.map_singleton, top]
      · obtain ⟨p, link, down, up'⟩ := parent_of_mem_ancestors up same
        have child := (wf.parent_iff p n).1 link
        rw [wf'.ancestors_child (copies.child up' child), wf.ancestors_child child, ih p down up',
          List.map_cons]

end Copies

/-- Node by node, the two trees agree on a part. -/
def Agree {α : Type} (part : Node → α) (ρ : NodeId → NodeId) (nodes : NodeId → Prop) (t u : Tree) :
    Prop :=
  ∀ m, nodes m → part (u.get (ρ m)) = part (t.get m)

section Agreement

variable {α : Type} {part : Node → α} {ρ : NodeId → NodeId} {nodes : NodeId → Prop} {t u : Tree}
  {n : NodeId}

theorem Agree.update (agree : Agree part ρ nodes t u) (ren : Renames ρ nodes t u) (hn : nodes n)
    {f g : Node → Node} (cong : ∀ x y, part y = part x → part (g y) = part (f x)) :
    Agree part ρ nodes (t.update n f) (u.update (ρ n) g) := by
  intro m hm
  rw [get_update, get_update]
  by_cases same : m = n
  · subst same
    rw [if_pos ⟨rfl, ren.inside' m hm⟩, if_pos ⟨rfl, ren.inside m hm⟩]
    exact cong _ _ (agree m hm)
  · have other : ρ m ≠ ρ n := fun eq => same (ren.injective hm hn eq)
    rw [if_neg (fun h => other h.1), if_neg (fun h => same h.1)]
    exact agree m hm

theorem Agree.reportFailure (agree : Agree part ρ nodes t u) (ren : Renames ρ nodes t u)
    (hn : nodes n) {failure failure' : Failure}
    (recorded : ∀ x y, part y = part x → part (y.recorded failure') = part (x.recorded failure))
    (marked : ∀ x y, part y = part x → part y.marked = part x.marked) :
    Agree part ρ nodes (t.reportFailure n failure) (u.reportFailure (ρ n) failure') := by
  intro m hm
  rw [get_reportFailure (ren.inside n hn), get_reportFailure (ren.inside' n hn)]
  by_cases same : m = n
  · rw [if_pos (congrArg ρ same), if_pos same]
    exact recorded _ _ (agree m hm)
  · have other : ρ m ≠ ρ n := fun eq => same (ren.injective hm hn eq)
    rw [if_neg other, if_neg same]
    by_cases up : m ∈ t.ancestors n
    · rw [if_pos ((ren.above m n hm hn).2 up), if_pos up]
      exact marked _ _ (agree m hm)
    · rw [if_neg (fun mem => up ((ren.above m n hm hn).1 mem)), if_neg up]
      exact agree m hm

/-- Forests of trees that agree on the facts have the same outlines. -/
theorem Agree.outlineOf (agree : Agree Node.facts ρ nodes t u) (forest : Forest)
    (members : ∀ m ∈ forest.preorder, nodes m) :
    u.outlineOf (forest.map ρ) = t.outlineOf forest := by
  induction forest with
  | nil => rfl
  | node n below beside ihBelow ihBeside =>
      simp only [Forest.preorder, List.mem_cons, List.mem_append] at members
      rw [Forest.map, Tree.outlineOf, Tree.outlineOf, agree n (members n (.inl rfl)),
        ihBelow fun m mem => members m (.inr (.inl mem)),
        ihBeside fun m mem => members m (.inr (.inr mem))]

end Agreement

/-- What hangs together with the root of `u` is a copy of what does so in `t`, and the trees tell
the same of these nodes. -/
structure Twins (ρ : NodeId → NodeId) (t u : Tree) : Prop where
  wf : t.WellFormed
  wf' : u.WellFormed
  copies : Copies ρ t root u
  top : ρ root = root
  agree : Agree Node.facts ρ (root ∈ t.ancestors ·) t u

namespace Twins

variable {ρ : NodeId → NodeId} {t u : Tree} {n : NodeId}

/-- Operations that leave the links alone make twins of twins, if the trees still agree. -/
theorem of_pristine {t' u' : Tree} (twins : Twins ρ t u) (left : t'.pristine = t.pristine)
    (right : u'.pristine = u.pristine) (agree : Agree Node.facts ρ (root ∈ t.ancestors ·) t' u') :
    Twins ρ t' u' where
  wf := twins.wf.of_pristine left.symm
  wf' := twins.wf'.of_pristine right.symm
  copies := twins.copies.of_pristine left right
  top := twins.top
  agree m up := by
    have attached : root ∈ t'.ancestors m := up
    rw [ancestors_eq_of_pristine left] at attached
    exact agree m attached

theorem renames (twins : Twins ρ t u) : Renames ρ (root ∈ t.ancestors ·) t u :=
  twins.copies.renames twins.wf twins.wf'

theorem below_root (twins : Twins ρ t u) : u.below root = (t.below root).map ρ := by
  have below := twins.copies.below_map twins.wf twins.wf' (mem_ancestors_self t root)
  rwa [twins.top] at below

theorem outline_eq (twins : Twins ρ t u) (up : root ∈ t.ancestors n) :
    u.outline (ρ n) = t.outline n := by
  rw [outline, outline, twins.copies.below_map twins.wf twins.wf' up]
  refine twins.agree.outlineOf (.node n (t.below n) .nil) fun m mem => ?_
  have below : m ∈ t.preorder n := by simpa [Forest.preorder, preorder] using mem
  exact mem_ancestors_trans up (twins.wf.mem_preorder_iff.1 below)

theorem outline_root (twins : Twins ρ t u) : u.outline root = t.outline root := by
  have same := twins.outline_eq (mem_ancestors_self t root)
  rwa [twins.top] at same

theorem isFailed_root (twins : Twins ρ t u) : u.isFailed root = t.isFailed root := by
  have same := twins.agree root (mem_ancestors_self t root)
  rw [twins.top] at same
  have result : (u.get root).result = (t.get root).result := congrArg Facts.result same
  rw [isFailed, isFailed, result]

/-- What is read off the nodes on the way up is the same. -/
theorem map_ancestors {α : Type} (twins : Twins ρ t u) (up : root ∈ t.ancestors n)
    (part : Facts → α) : (u.ancestors (ρ n)).map (fun a => part (u.get a).facts) =
      (t.ancestors n).map fun a => part (t.get a).facts := by
  rw [twins.copies.ancestors_map twins.wf twins.wf' twins.top up, List.map_map]
  apply List.map_congr_left
  intro a above
  have attached : root ∈ t.ancestors a := by
    obtain upper | lower := mem_ancestors_total up above
    · exact upper
    · exact eq_root_of_mem_ancestors lower ▸ mem_ancestors_self t root
  exact congrArg part (twins.agree a attached)

theorem name_eq (twins : Twins ρ t u) (up : root ∈ t.ancestors n) :
    (u.get (ρ n)).name = (t.get n).name :=
  congrArg Facts.name (twins.agree n up)

theorem pathNames_eq (twins : Twins ρ t u) (up : root ∈ t.ancestors n) :
    u.pathNames (ρ n) = t.pathNames n :=
  congrArg List.reverse (twins.map_ancestors up Facts.name)

/-- The data directory declared nearest is the same. -/
theorem dataDir_eq (twins : Twins ρ t u) (up : root ∈ t.ancestors n) :
    u.dataDir (ρ n) = t.dataDir n := by
  have declared : ∀ (t : Tree) (n : NodeId),
      t.dataDir n = ((t.ancestors n).map fun a => (t.get a).facts.dataDir).findSome? id := by
    intro t n
    rw [dataDir, List.findSome?_map]
    rfl
  rw [declared, declared, twins.map_ancestors up Facts.dataDir]

theorem sight_eq (twins : Twins ρ t u) (up : root ∈ t.ancestors n) :
    u.sight (ρ n) = t.sight n := by
  rw [sight, sight, twins.outline_root, twins.outline_eq up, twins.pathNames_eq up]

end Twins

end Tree

end SuiteTree
