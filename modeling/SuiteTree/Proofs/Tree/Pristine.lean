import SuiteTree.Tree.Forest

/-!
# The lasting part of a tree

A run changes only how far the nodes have come and what is known of them. Names, links, declared
directories and the presence of hooks last; `Tree.pristine` keeps exactly these. Trees with the same
links agree on everything that follows them: the way up from a node and the forest below it. Two
trees with the same pristine form are a case of this.
-/

namespace SuiteTree

/-- The node as if it had never been entered and no failure had been reported to it or below it. -/
def Node.pristine (node : Node) : Node :=
  { node with stage := .idle, result := none }

namespace Tree

variable {t u : Tree}

/-- Looking up a node after an update. A number that no node has is not affected by any update. -/
theorem get_update (t : Tree) (n : NodeId) (f : Node → Node) (m : NodeId) :
    (t.update n f).get m = if m = n ∧ n < t.size then f (t.get m) else t.get m := by
  by_cases same : m = n
  · subst same
    by_cases inside : m < t.size
    · simp [get_update_self f inside, inside]
    · have outside : ¬ m < t.nodes.size := inside
      simp [get, update, Array.getD, outside, inside]
  · simp [get_update_of_ne f same, same]

/-- A part of the nodes that an update leaves alone is the same for every node afterwards. -/
theorem proj_get_update {α : Type} (part : Node → α) {f : Node → Node}
    (keeps : ∀ node, part (f node) = part node) (t : Tree) (n m : NodeId) :
    part ((t.update n f).get m) = part (t.get m) := by
  rw [get_update]
  split
  · exact keeps _
  · rfl

/-- A number that no node has is answered like an untouched node without links. -/
theorem get_of_size_le {n : NodeId} (outside : t.size ≤ n) : t.get n = default := by
  have outside' : ¬ n < t.nodes.size := Nat.not_lt.2 outside
  simp [get, Array.getD, outside']

theorem eq_of_get (size : t.size = u.size) (nodes : ∀ n, t.get n = u.get n) : t = u := by
  obtain ⟨ts⟩ := t
  obtain ⟨us⟩ := u
  have lengths : ts.size = us.size := size
  congr 1
  apply Array.ext lengths
  intro i hi hi'
  simpa [get, Array.getD, hi, hi'] using nodes i

/-- The tree as if nothing had ever run or failed in it. -/
def pristine (t : Tree) : Tree :=
  ⟨t.nodes.map Node.pristine⟩

@[simp] theorem size_pristine (t : Tree) : t.pristine.size = t.size := by
  simp [pristine, size]

@[simp] theorem get_pristine (t : Tree) (n : NodeId) : t.pristine.get n = (t.get n).pristine := by
  by_cases inside : n < t.nodes.size
  · simp [pristine, get, Array.getD, inside]
  · simp [pristine, get, Array.getD, inside]
    rfl

theorem pristine_update {f : Node → Node} (keeps : ∀ node, (f node).pristine = node.pristine)
    (t : Tree) (n : NodeId) : (t.update n f).pristine = t.pristine := by
  apply eq_of_get
  · simp
  · intro m
    simpa using proj_get_update Node.pristine keeps t n m

@[simp] theorem pristine_setStage (t : Tree) (n : NodeId) (stage : Stage) :
    (t.setStage n stage).pristine = t.pristine := by
  apply pristine_update
  intro node
  rfl

@[simp] theorem pristine_beginResult (t : Tree) (n : NodeId) :
    (t.beginResult n).pristine = t.pristine := by
  apply pristine_update
  intro node
  rfl

@[simp] theorem pristine_setElapsed (t : Tree) (n : NodeId) (elapsed : Time.Elapsed) :
    (t.setElapsed n elapsed).pristine = t.pristine := by
  apply pristine_update
  intro node
  rfl

@[simp] theorem pristine_recordFailure (t : Tree) (n : NodeId) (failure : Failure) :
    (t.recordFailure n failure).pristine = t.pristine := by
  apply pristine_update
  intro node
  rfl

@[simp] theorem pristine_markFailedBelow (t : Tree) (n : NodeId) :
    (t.markFailedBelow n).pristine = t.pristine := by
  apply pristine_update
  intro node
  rfl

theorem pristine_foldl_markFailedBelow (ns : List NodeId) (t : Tree) :
    (ns.foldl markFailedBelow t).pristine = t.pristine := by
  induction ns generalizing t with
  | nil => rfl
  | cons n ns ih => rw [List.foldl_cons, ih, pristine_markFailedBelow]

@[simp] theorem pristine_reportFailure (t : Tree) (n : NodeId) (failure : Failure) :
    (t.reportFailure n failure).pristine = t.pristine := by
  rw [reportFailure, pristine_foldl_markFailedBelow, pristine_recordFailure]

theorem size_eq_of_pristine (same : t.pristine = u.pristine) : t.size = u.size := by
  simpa using congrArg size same

theorem pristine_get (same : t.pristine = u.pristine) (n : NodeId) :
    (t.get n).pristine = (u.get n).pristine := by
  simpa using congrArg (get · n) same

theorem parent_eq_of_pristine (same : t.pristine = u.pristine) (n : NodeId) :
    (t.get n).parent = (u.get n).parent :=
  (congrArg Node.parent (pristine_get same n) :)

theorem children_eq_of_pristine (same : t.pristine = u.pristine) (n : NodeId) :
    (t.get n).children = (u.get n).children :=
  (congrArg Node.children (pristine_get same n) :)

theorem hooked_eq_of_pristine (same : t.pristine = u.pristine) (n : NodeId) :
    (t.get n).hooked = (u.get n).hooked :=
  (congrArg Node.hooked (pristine_get same n) :)

/-- Reading the forest off a list of children, one child at a time. -/
theorem belowAll_cons (t : Tree) (n c : NodeId) (rest : List NodeId) :
    t.belowAll n (c :: rest) =
      if n < c ∧ c < t.size then .node c (t.below c) (t.belowAll n rest)
      else t.belowAll n rest := by
  rw [belowAll]
  split <;> rfl

/-- The trees have the same links. -/
structure SameLinks (t u : Tree) : Prop where
  size : t.size = u.size
  parent : ∀ n, (t.get n).parent = (u.get n).parent
  children : ∀ n, (t.get n).children = (u.get n).children

theorem SameLinks.ancestors (same : t.SameLinks u) (n : NodeId) : t.ancestors n = u.ancestors n := by
  induction n using Nat.strongRecOn with
  | ind n ih =>
      unfold Tree.ancestors
      rw [same.parent n]
      cases (u.get n).parent with
      | none => rfl
      | some p =>
          by_cases down : p < n
          · simp [down, ih p down]
          · simp [down]

/-- The forest below a node follows the children lists only. The induction is that of the two
functions that read the forest off a tree. -/
private theorem SameLinks.forest (same : t.SameLinks u) :
    (∀ n, t.below n = u.below n) ∧ ∀ n cs, t.belowAll n cs = u.belowAll n cs := by
  refine below.mutual_induct t (fun n => t.below n = u.below n)
    (fun n cs => t.belowAll n cs = u.belowAll n cs) ?_ ?_ ?_ ?_
  · intro n ih
    rw [Tree.below, Tree.below, ← same.children n, ih]
  · intro n
    rw [belowAll, belowAll]
  · intro n c rest inside _ below beside
    rw [belowAll_cons, belowAll_cons, ← same.size, if_pos inside, if_pos inside, below, beside]
  · intro n c rest outside beside
    rw [belowAll_cons, belowAll_cons, ← same.size, if_neg outside, if_neg outside, beside]

theorem SameLinks.below (same : t.SameLinks u) (n : NodeId) : t.below n = u.below n :=
  same.forest.1 n

theorem SameLinks.belowAll (same : t.SameLinks u) (n : NodeId) (cs : List NodeId) :
    t.belowAll n cs = u.belowAll n cs :=
  same.forest.2 n cs

theorem sameLinks_of_pristine (same : t.pristine = u.pristine) : t.SameLinks u :=
  ⟨size_eq_of_pristine same, parent_eq_of_pristine same, children_eq_of_pristine same⟩

theorem ancestors_eq_of_pristine (same : t.pristine = u.pristine) (n : NodeId) :
    t.ancestors n = u.ancestors n :=
  (sameLinks_of_pristine same).ancestors n

theorem below_eq_of_pristine (same : t.pristine = u.pristine) (n : NodeId) :
    t.below n = u.below n :=
  (sameLinks_of_pristine same).below n

theorem belowAll_eq_of_pristine (same : t.pristine = u.pristine) (n : NodeId)
    (cs : List NodeId) : t.belowAll n cs = u.belowAll n cs :=
  (sameLinks_of_pristine same).belowAll n cs

theorem ownDataDir_eq_of_pristine (same : t.pristine = u.pristine) (n : NodeId) :
    (t.get n).dataDir = (u.get n).dataDir :=
  (congrArg Node.dataDir (pristine_get same n) :)

theorem dataDir_eq_of_pristine (same : t.pristine = u.pristine) (n : NodeId) :
    t.dataDir n = u.dataDir n := by
  simp only [dataDir, ancestors_eq_of_pristine same, ownDataDir_eq_of_pristine same]

/-- Node `n` has not been entered, and no failure was reported to it or below it. -/
def Idle (t : Tree) (n : NodeId) : Prop :=
  (t.get n).stage = .idle ∧ (t.get n).result = none

instance (t : Tree) (n : NodeId) : Decidable (t.Idle n) :=
  inferInstanceAs (Decidable (_ ∧ _))

/-- Nothing has run or failed in the tree. -/
def Untouched (t : Tree) : Prop :=
  ∀ n, t.Idle n

/-- An untouched tree is one that equals its pristine form. -/
theorem untouched_iff : t.Untouched ↔ t.pristine = t := by
  constructor
  · intro untouched
    apply eq_of_get (size_pristine t)
    intro n
    obtain ⟨stage, result⟩ := untouched n
    rw [get_pristine, Node.pristine, ← stage, ← result]
  · intro same n
    have node : (t.get n).pristine = t.get n := by rw [← get_pristine, same]
    exact ⟨congrArg Node.stage node.symm, congrArg Node.result node.symm⟩

theorem pristine_pristine (t : Tree) : t.pristine.pristine = t.pristine := by
  rw [← untouched_iff]
  intro n
  rw [Idle, get_pristine]
  exact ⟨rfl, rfl⟩

end Tree

end SuiteTree
