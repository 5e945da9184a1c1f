import SuiteTree.Proofs.Report.Printout
import SuiteTree.Proofs.Tree.Failures
import SuiteTree.Proofs.Tree.Preorder

/-!
# Which nodes are shown

A report leaves a node of which nothing is known out together with everything below it. So it shows
exactly the nodes of which something is known if this is true of all nodes above them as well. Then
they come in the order of the subtree, each at its depth.

If in addition the marks of the nodes are right, then the status that is printed for a node can be
checked against the failures that are printed inside its element.
-/

namespace SuiteTree

namespace Report

/-- The printed nodes with their depths, in the order in which they are printed. -/
def Printout.entries (depth : Nat) : Printout → List (Nat × Printed)
  | nil => []
  | entry e below beside => (depth, e) :: (below.entries (depth + 1) ++ beside.entries depth)

/-- A failure is printed. -/
def Printout.Fails : Printout → Prop
  | nil => False
  | entry e below beside => e.failures ≠ [] ∨ below.Fails ∨ beside.Fails

/-- Every status is `FAIL` exactly if a failure is printed inside the element of the node. -/
def Printout.Telling : Printout → Prop
  | nil => True
  | entry e below beside =>
    (e.failed = true ↔ e.failures ≠ [] ∨ below.Fails) ∧ below.Telling ∧ beside.Telling

theorem Printout.textLines_eq_flatMap (p : Printout) (depth : Nat) :
    p.textLines depth = (p.entries depth).flatMap fun x => x.2.textLines x.1 := by
  induction p generalizing depth with
  | nil => rfl
  | entry e below beside ihBelow ihBeside =>
      simp [Printout.textLines, Printout.entries, ihBelow, ihBeside]

theorem Printout.fails_iff (p : Printout) (depth : Nat) :
    p.Fails ↔ ∃ x ∈ p.entries depth, x.2.failures ≠ [] := by
  induction p generalizing depth with
  | nil => simp [Fails, entries]
  | entry e below beside ihBelow ihBeside =>
      simp only [Fails, entries, ihBelow (depth + 1), ihBeside depth, List.mem_cons,
        List.mem_append, or_and_right, exists_or, exists_eq_left]

end Report

namespace Tree

open Report

variable {t : Tree} {c n : NodeId}

/-- What is printed of a node. -/
def printed (t : Tree) (n : NodeId) : Printed where
  name := (t.get n).name
  failed := t.isFailed n
  real := seconds (t.elapsed n).real
  user := seconds (t.elapsed n).user
  system := seconds (t.elapsed n).system
  failures := t.failures n

/-- The nodes among `ns` of which something is known. -/
def known (t : Tree) (ns : List NodeId) : List NodeId :=
  ns.filter fun n => (t.get n).result.isSome

/-- Where something is known of a node, something is known of all nodes above it. -/
def KnownFromAbove (t : Tree) : Prop :=
  ∀ m, (t.get m).result.isSome = true → ∀ k ∈ t.ancestors m, (t.get k).result.isSome = true

/-- A node is marked exactly if a node below it has failures. -/
def MarkedRightly (t : Tree) : Prop :=
  ∀ n, t.childrenFailed n = true ↔ ∃ d ∈ (t.below n).preorder, t.failures d ≠ []

theorem printout_node_of_unknown (blank : (t.get c).result = none) (below beside : Forest) :
    (view (t.outlineOf (.node c below beside))).printout = (view (t.outlineOf beside)).printout := by
  rw [view_node_of_unknown blank]

theorem printout_node_of_known (known : (t.get c).result.isSome = true) (below beside : Forest) :
    (view (t.outlineOf (.node c below beside))).printout =
      .entry (t.printed c) (view (t.outlineOf below)).printout
        (view (t.outlineOf beside)).printout := by
  obtain ⟨r, known⟩ := Option.isSome_iff_exists.1 known
  simp [view_node_of_known known, known, View.printout, Entry.printed, Entry.ofResult, printed,
    Tree.isFailed, Tree.failures, Tree.elapsed]

namespace WellFormed

/-- A first tree is printed as its known nodes, if that holds of what is below its root. -/
theorem entries_node (wf : t.WellFormed) (closed : t.KnownFromAbove) (beside : Forest)
    (below : (view (t.outlineOf (t.below c))).printout.entries (t.depth c + 1) =
      (t.known (t.below c).preorder).map fun m => (t.depth m, t.printed m)) :
    (view (t.outlineOf (.node c (t.below c) beside))).printout.entries (t.depth c) =
      ((t.known (t.preorder c)).map fun m => (t.depth m, t.printed m)) ++
        (view (t.outlineOf beside)).printout.entries (t.depth c) := by
  cases here : (t.get c).result.isSome with
  | false =>
      have none : t.known (t.preorder c) = [] := by
        apply List.filter_eq_nil_iff.2
        intro m mem known
        rw [closed m known c (wf.mem_preorder_iff.1 mem)] at here
        cases here
      rw [printout_node_of_unknown (by simpa using here), none]
      rfl
  | true =>
      have first : t.known (t.preorder c) = c :: t.known (t.below c).preorder :=
        List.filter_cons_of_pos here
      rw [printout_node_of_known here, Printout.entries, below, first]
      simp

/-- What is printed of some children and what is below them are the known nodes among these. -/
theorem entries_belowAll (wf : t.WellFormed) (closed : t.KnownFromAbove) (n : NodeId)
    (cs : List NodeId) (children : ∀ c ∈ cs, c ∈ (t.get n).children) :
    (view (t.outlineOf (t.belowAll n cs))).printout.entries (t.depth n + 1) =
      (t.known (t.belowAll n cs).preorder).map fun m => (t.depth m, t.printed m) := by
  refine wf.children_induction
    (motive := fun n cs => (view (t.outlineOf (t.belowAll n cs))).printout.entries (t.depth n + 1) =
      (t.known (t.belowAll n cs).preorder).map fun m => (t.depth m, t.printed m))
    ?_ ?_ n cs children
  · intro n
    rw [belowAll]
    rfl
  · intro n c rest children below beside
    have child := children c List.mem_cons_self
    rw [← Tree.below] at below
    have whole := wf.entries_node closed (t.belowAll n rest) below
    rw [wf.depth_child child, beside, ← List.map_append] at whole
    rw [wf.belowAll_cons_child child, whole, known, known, ← List.filter_append]
    rfl

theorem entries_below (wf : t.WellFormed) (closed : t.KnownFromAbove) (n : NodeId) :
    (view (t.outlineOf (t.below n))).printout.entries (t.depth n + 1) =
      (t.known (t.below n).preorder).map fun m => (t.depth m, t.printed m) := by
  rw [below]
  exact wf.entries_belowAll closed n _ fun _ => id

/-- What is printed of a subtree are its known nodes, in the order of the subtree. -/
theorem entries_printout (wf : t.WellFormed) (closed : t.KnownFromAbove) (n : NodeId) :
    (t.printout n).entries (t.depth n) =
      (t.known (t.preorder n)).map fun m => (t.depth m, t.printed m) := by
  have whole := wf.entries_node closed .nil (wf.entries_below closed n)
  have none : (view (t.outlineOf .nil)).printout.entries (t.depth n) = [] := rfl
  rwa [none, List.append_nil] at whole

/-- A failure is printed below a node exactly if a node below it has one. -/
theorem fails_below_iff (wf : t.WellFormed) (closed : t.KnownFromAbove) (n : NodeId) :
    (view (t.outlineOf (t.below n))).printout.Fails ↔
      ∃ d ∈ (t.below n).preorder, t.failures d ≠ [] := by
  rw [Printout.fails_iff _ (t.depth n + 1), wf.entries_below closed]
  constructor
  · rintro ⟨x, mem, some⟩
    obtain ⟨d, inner, rfl⟩ := List.mem_map.1 mem
    exact ⟨d, (List.mem_filter.1 inner).1, some⟩
  · rintro ⟨d, mem, some⟩
    have here : (t.get d).result.isSome = true := by
      by_contra unknown
      rw [Tree.failures, Option.not_isSome_iff_eq_none.1 unknown] at some
      exact some rfl
    exact ⟨_, List.mem_map.2 ⟨d, List.mem_filter.2 ⟨mem, here⟩, rfl⟩, some⟩

/-- A first tree is printed with the right status, if that holds of what is below its root. -/
theorem telling_node (wf : t.WellFormed) (closed : t.KnownFromAbove) (marks : t.MarkedRightly)
    {beside : Forest} (below : (view (t.outlineOf (t.below c))).printout.Telling)
    (later : (view (t.outlineOf beside)).printout.Telling) :
    (view (t.outlineOf (.node c (t.below c) beside))).printout.Telling := by
  cases here : (t.get c).result.isSome with
  | false => rwa [printout_node_of_unknown (by simpa using here)]
  | true =>
      rw [printout_node_of_known here]
      refine ⟨?_, below, later⟩
      have status : (t.printed c).failed = t.isFailed c := rfl
      have own : (t.printed c).failures = t.failures c := rfl
      rw [status, own, isFailed_iff, marks, wf.fails_below_iff closed, or_comm]

theorem telling_belowAll (wf : t.WellFormed) (closed : t.KnownFromAbove) (marks : t.MarkedRightly)
    (n : NodeId) (cs : List NodeId) (children : ∀ c ∈ cs, c ∈ (t.get n).children) :
    (view (t.outlineOf (t.belowAll n cs))).printout.Telling := by
  refine wf.children_induction
    (motive := fun n cs => (view (t.outlineOf (t.belowAll n cs))).printout.Telling)
    ?_ ?_ n cs children
  · intro n
    rw [belowAll]
    trivial
  · intro n c rest children below beside
    rw [← Tree.below] at below
    rw [wf.belowAll_cons_child (children c List.mem_cons_self)]
    exact wf.telling_node closed marks below beside

/-- The status that is printed for a node tells whether a failure is printed inside its element. -/
theorem telling_printout (wf : t.WellFormed) (closed : t.KnownFromAbove) (marks : t.MarkedRightly)
    (n : NodeId) : (t.printout n).Telling := by
  have below := wf.telling_belowAll closed marks n _ fun _ => id
  rw [← Tree.below] at below
  exact wf.telling_node closed marks below trivial

end WellFormed

end Tree

end SuiteTree
