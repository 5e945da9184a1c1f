import SuiteTree.Proofs.Arena
import SuiteTree.Proofs.Tree.Pruned

/-!
# Inherited data directories

A node without a data directory of its own has that of its parent. So a declaration counts for all
that is below its node, down to the next declarations, and whatever changes the tree changes what is
inherited in the same region: a new declaration replaces it there, and cutting off an undeclared
node takes it away. A node has no data directory exactly if none was ever declared on its way up,
because a declaration is never taken back.
-/

namespace SuiteTree.Tree

/-- A directory declared at node `a` is the one that counts at node `m`: the way up from `m` leads
through `a`, and below `a` no directory is declared on it. -/
def Governs (t : Tree) (a m : NodeId) : Prop :=
  a ∈ t.ancestors m ∧ ∀ k ∈ t.ancestors m, a ∈ t.ancestors k → k ≠ a → (t.get k).dataDir = none

instance (t : Tree) (a m : NodeId) : Decidable (t.Governs a m) :=
  inferInstanceAs (Decidable (_ ∧ _))

/-- A node has what it inherits from a child of node `n` that pruning detaches, and the child has it
from above. -/
def Disinherits (t : Tree) (n : NodeId) (max : Duration) (m : NodeId) : Prop :=
  ∃ d ∈ t.prunedChildren n max, t.Governs d m ∧ (t.get d).dataDir = none

instance (t : Tree) (n : NodeId) (max : Duration) (m : NodeId) :
    Decidable (t.Disinherits n max m) :=
  inferInstanceAs (Decidable (∃ _ ∈ _, _))

/-- The data directories that were declared while the tree was made, the latest one first, each with
the node that it was declared for. -/
inductive MadeWith : Tree → List (NodeId × String) → Prop where
  | new (name : String) : MadeWith (.new name) []
  | add {t : Tree} {ds : List (NodeId × String)} {parent : NodeId} (h : MadeWith t ds)
      (inside : parent < t.size) (name : String) (duration : Duration) :
      MadeWith (t.add parent name duration).2 ds
  | setDataDir {t : Tree} {ds : List (NodeId × String)} {n : NodeId} (h : MadeWith t ds)
      (inside : n < t.size) (dir : String) : MadeWith (t.setDataDir n dir) ((n, dir) :: ds)
  | prune {t : Tree} {ds : List (NodeId × String)} {n : NodeId} (h : MadeWith t ds)
      (inside : n < t.size) (max : Duration) : MadeWith (t.prune n max) ds
  | reportFailure {t : Tree} {ds : List (NodeId × String)} {n : NodeId} (h : MadeWith t ds)
      (inside : n < t.size) (failure : Failure) : MadeWith (t.reportFailure n failure) ds
  | run {t : Tree} {ds : List (NodeId × String)} {n : NodeId} {world : World} {s : State}
      (h : MadeWith t ds) (inside : n < t.size) (options : Options) (hooks : NodeId → Hooks)
      (ended : runNode options hooks n ⟨t, world⟩ = .ok () s) : MadeWith s.tree ds

variable {t : Tree} {ds : List (NodeId × String)} {a c m n p parent : NodeId} {max : Duration}

theorem governs_self (t : Tree) (a : NodeId) : t.Governs a a :=
  ⟨mem_ancestors_self t a, fun _ up above ne => absurd (eq_of_mem_ancestors up above) ne⟩

theorem eq_of_governs_of_free (free : (t.get m).parent = none) (governs : t.Governs a m) :
    a = m := by
  have up := governs.1
  rw [ancestors_of_parent_eq_none free] at up
  exact List.mem_singleton.1 up

theorem dataDir_of_free (free : (t.get m).parent = none) : t.dataDir m = (t.get m).dataDir := by
  rw [dataDir, ancestors_of_parent_eq_none free, List.findSome?_singleton]

namespace WellFormed

theorem governs_child_iff (wf : t.WellFormed) (child : c ∈ (t.get p).children) (ne : a ≠ c) :
    t.Governs a c ↔ (t.get c).dataDir = none ∧ t.Governs a p := by
  have way := wf.ancestors_child child
  constructor
  · rintro ⟨up, bare⟩
    refine ⟨bare c (mem_ancestors_self t c) up ne.symm, ?_, fun k above => bare k ?_⟩
    · rw [way] at up
      exact (List.mem_cons.1 up).resolve_left ne
    · rw [way]
      exact List.mem_cons_of_mem _ above
  · rintro ⟨own, up, bare⟩
    rw [Governs, way, List.forall_mem_cons]
    exact ⟨List.mem_cons_of_mem _ up, fun _ _ => own, bare⟩

theorem dataDir_child (wf : t.WellFormed) (child : c ∈ (t.get p).children) :
    t.dataDir c = (t.get c).dataDir.or (t.dataDir p) := by
  rw [dataDir, wf.ancestors_child child, List.findSome?_cons]
  cases (t.get c).dataDir <;> rfl

/-- Induction down the links: what holds of nodes without parents, and of a child if it holds of its
parent, holds of all nodes. -/
theorem down_induction (wf : t.WellFormed) {motive : NodeId → Prop}
    (free : ∀ m, (t.get m).parent = none → motive m)
    (child : ∀ p c, c ∈ (t.get p).children → motive p → motive c) (m : NodeId) : motive m := by
  induction m using Nat.strongRecOn with
  | ind m ih =>
      cases link : (t.get m).parent with
      | none => exact free m link
      | some p =>
          have mem := (wf.parent_iff p m).1 link
          exact child p m mem (ih p (wf.lt_child p m mem))

/-- A declaration is seen at the nodes that its node governs, and at no others. -/
theorem dataDir_setDataDir (wf : t.WellFormed) (inside : n < t.size) (dir : String) (m : NodeId) :
    (t.setDataDir n dir).dataDir m = if t.Governs n m then some dir else t.dataDir m := by
  have own : ∀ k, ((t.setDataDir n dir).get k).dataDir =
      if k = n then some dir else (t.get k).dataDir := by
    intro k
    rw [Tree.setDataDir, get_update]
    by_cases same : k = n
    · rw [if_pos ⟨same, inside⟩, if_pos same]
    · rw [if_neg fun h => same h.1, if_neg same]
  have children : ∀ k, ((t.setDataDir n dir).get k).children = (t.get k).children :=
    proj_get_update Node.children (fun _ => by rfl) t n
  have links : ∀ k, ((t.setDataDir n dir).get k).parent = (t.get k).parent :=
    proj_get_update Node.parent (fun _ => by rfl) t n
  induction m using wf.down_induction with
  | free m free =>
      rw [dataDir_of_free ((links m).trans free), own, dataDir_of_free free]
      by_cases same : m = n
      · subst same
        rw [if_pos rfl, if_pos (governs_self t m)]
      · rw [if_neg same, if_neg fun governs => same (eq_of_governs_of_free free governs).symm]
  | child p c child ih =>
      rw [(wf.setDataDir n dir).dataDir_child (children p ▸ child), own, ih]
      by_cases same : c = n
      · subst same
        rw [if_pos rfl, if_pos (governs_self t c), Option.some_or]
      · rw [if_neg same, wf.dataDir_child child]
        simp only [wf.governs_child_iff child (Ne.symm same)]
        cases (t.get c).dataDir <;> simp

/-- A new node has the data directory of its parent, and no other node gets a new one. -/
theorem dataDir_add (wf : t.WellFormed) (inside : parent < t.size) (name : String)
    (duration : Duration) (m : NodeId) : (t.add parent name duration).2.dataDir m =
      t.dataDir (if m = t.size then parent else m) := by
  have own : ∀ k, ((t.add parent name duration).2.get k).dataDir =
      if k = t.size then none else (t.get k).dataDir := by
    intro k
    have facts := congrArg Facts.dataDir (facts_add inside name duration k)
    rwa [apply_ite Facts.dataDir] at facts
  have wf' := wf.add inside name duration
  have old : ∀ k, k ≠ t.size → (t.add parent name duration).2.dataDir k = t.dataDir k := by
    intro k
    induction k using wf.down_induction with
    | free k free =>
        intro ne
        rw [dataDir_of_free free, dataDir_of_free (by rwa [parent_add inside, if_neg ne]), own,
          if_neg ne]
    | child p c child ih =>
        intro ne
        have ne' : p ≠ t.size := Nat.ne_of_lt
          (Nat.lt_trans (wf.lt_child p c child) (wf.child_lt_size p c child))
        have child' : c ∈ ((t.add parent name duration).2.get p).children := by
          rw [← wf'.parent_iff, parent_add inside, if_neg ne]
          exact (wf.parent_iff p c).2 child
        rw [wf'.dataDir_child child', own, if_neg ne, ih ne', wf.dataDir_child child]
  split
  · next last =>
    subst last
    have child : t.size ∈ ((t.add parent name duration).2.get parent).children := by
      rw [← wf'.parent_iff, parent_add inside, if_pos rfl]
    rw [wf'.dataDir_child child, own, if_pos rfl, Option.none_or, old _ (Nat.ne_of_lt inside)]
  · next ne => exact old m ne

theorem not_disinherits_of_free (wf : t.WellFormed) (free : (t.get m).parent = none) :
    ¬t.Disinherits n max m := by
  rintro ⟨d, cut, governs, -⟩
  have link := (wf.parent_iff n d).2 (mem_prunedChildren_iff.1 cut).1
  rw [eq_of_governs_of_free free governs, free] at link
  cases link

theorem disinherits_cut_iff (wf : t.WellFormed) (cut : c ∈ t.prunedChildren n max) :
    t.Disinherits n max c ↔ (t.get c).dataDir = none := by
  constructor
  · rintro ⟨d, -, governs, bare⟩
    by_cases same : d = c
    · exact same ▸ bare
    · exact ((wf.governs_child_iff (mem_prunedChildren_iff.1 cut).1 same).1 governs).1
  · intro bare
    exact ⟨c, cut, governs_self t c, bare⟩

theorem disinherits_child_iff (wf : t.WellFormed) (child : c ∈ (t.get p).children)
    (uncut : c ∉ t.prunedChildren n max) :
    t.Disinherits n max c ↔ (t.get c).dataDir = none ∧ t.Disinherits n max p := by
  have step : ∀ d ∈ t.prunedChildren n max, (t.Governs d c ↔
      (t.get c).dataDir = none ∧ t.Governs d p) := fun d mem =>
    wf.governs_child_iff child fun same => uncut (same ▸ mem)
  constructor
  · rintro ⟨d, mem, governs, bare⟩
    obtain ⟨own, governs⟩ := (step d mem).1 governs
    exact ⟨own, d, mem, governs, bare⟩
  · rintro ⟨own, d, mem, governs, bare⟩
    exact ⟨d, mem, (step d mem).2 ⟨own, governs⟩, bare⟩

/-- Pruning takes what is inherited from above from the nodes that an undeclared detached child
governs. It changes nothing for the others. -/
theorem dataDir_pruned (wf : t.WellFormed) (inside : n < t.size) (max : Duration) (m : NodeId) :
    (t.prune n max).dataDir m = if t.Disinherits n max m then none else t.dataDir m := by
  have wf' := wf.prune inside max
  induction m using wf.down_induction with
  | free m free =>
      have free' : ((t.prune n max).get m).parent = none := by
        rw [parent_prune, free, ite_self]
      rw [dataDir_of_free free', dataDir_get_prune, dataDir_of_free free,
        if_neg (wf.not_disinherits_of_free free)]
  | child p c child ih =>
      by_cases cut : c ∈ t.prunedChildren n max
      · have free' : ((t.prune n max).get c).parent = none := by rw [parent_prune, if_pos cut]
        rw [dataDir_of_free free', dataDir_get_prune, wf.dataDir_child child]
        simp only [wf.disinherits_cut_iff cut]
        cases (t.get c).dataDir <;> simp
      · have child' : c ∈ ((t.prune n max).get p).children := by
          rw [← wf'.parent_iff, parent_prune, if_neg cut]
          exact (wf.parent_iff p c).2 child
        rw [wf'.dataDir_child child', dataDir_get_prune, ih, wf.dataDir_child child]
        simp only [wf.disinherits_child_iff child cut]
        cases (t.get c).dataDir <;> simp

end WellFormed

theorem MadeWith.reachable (made : t.MadeWith ds) : t.Reachable := by
  induction made with
  | new name => exact .new name
  | add _ inside name duration ih => exact ih.add inside name duration
  | setDataDir _ inside dir ih => exact ih.setDataDir inside dir
  | prune _ inside max ih => exact ih.prune inside max
  | reportFailure _ inside failure ih => exact ih.reportFailure inside failure
  | run _ inside options hooks ended ih => exact ih.run inside options hooks ended

/-- Every reachable tree was made with some declarations. -/
theorem Reachable.exists_madeWith (reach : t.Reachable) : ∃ ds, t.MadeWith ds := by
  induction reach with
  | new name => exact ⟨[], .new name⟩
  | add _ inside name duration ih =>
      obtain ⟨ds, made⟩ := ih
      exact ⟨ds, made.add inside name duration⟩
  | @setDataDir t n _ inside dir ih =>
      obtain ⟨ds, made⟩ := ih
      exact ⟨(n, dir) :: ds, made.setDataDir inside dir⟩
  | prune _ inside max ih =>
      obtain ⟨ds, made⟩ := ih
      exact ⟨ds, made.prune inside max⟩
  | reportFailure _ inside failure ih =>
      obtain ⟨ds, made⟩ := ih
      exact ⟨ds, made.reportFailure inside failure⟩
  | run _ inside options hooks ended ih =>
      obtain ⟨ds, made⟩ := ih
      exact ⟨ds, made.run inside options hooks ended⟩

/-- The directory of a node is the one that was declared last for it. -/
theorem MadeWith.dataDir_eq_lookup (made : t.MadeWith ds) (m : NodeId) :
    (t.get m).dataDir = ds.lookup m := by
  induction made with
  | new name =>
      cases m with
      | zero => rfl
      | succ m => rfl
  | @add t ds parent _ inside name duration ih =>
      have facts := congrArg Facts.dataDir (facts_add inside name duration m)
      rw [apply_ite Facts.dataDir] at facts
      refine facts.trans ?_
      split
      · next last =>
        rw [← ih, last, get_of_size_le (Nat.le_refl _)]
        rfl
      · exact ih
  | @setDataDir t ds n _ inside dir ih =>
      rw [Tree.setDataDir, get_update, List.lookup_cons, ← ih]
      by_cases same : m = n
      · simp [same, inside]
      · rw [beq_false_of_ne same, if_neg fun h => same h.1]
  | @prune t ds n _ inside max ih =>
      exact (dataDir_get_prune t n max m).trans ih
  | @reportFailure t ds n _ inside failure ih =>
      exact (ownDataDir_eq_of_pristine (pristine_reportFailure t n failure) m).trans ih
  | run h _ options hooks ended ih =>
      have same := pristine_of_ended h.reachable.wellFormed ended
      exact (ownDataDir_eq_of_pristine same m).trans ih

/-- A node is without a data directory if none was ever declared on its way up. -/
theorem MadeWith.dataDir_eq_none_iff (made : t.MadeWith ds) (m : NodeId) :
    t.dataDir m = none ↔ ∀ a ∈ t.ancestors m, ∀ dir, (a, dir) ∉ ds := by
  rw [dataDir, List.findSome?_eq_none_iff]
  refine forall₂_congr fun a _ => ?_
  rw [made.dataDir_eq_lookup, List.lookup_eq_none_iff]
  constructor
  · intro absent dir mem
    simpa using absent (a, dir) mem
  · rintro absent ⟨b, dir⟩ mem
    simp only [bne_iff_ne]
    rintro rfl
    exact absent dir mem

end SuiteTree.Tree
