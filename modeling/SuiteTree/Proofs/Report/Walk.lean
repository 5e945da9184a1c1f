import SuiteTree.Proofs.Tree.Preorder
import SuiteTree.Report

/-!
# The walk of a report

A report is written by a walk over the links: a node without a result writes nothing, any other node
writes its own lines and, unless the format is brief, goes on with its list of children. The
relation `Walks` says this of the links as they are stored, so there is a walk from a node only if
the links let it come to an end.

In a well-formed tree there is one from every node. It writes the lines of the report, and the nodes
that it comes to are among those of the subtree, in their order.
-/

namespace SuiteTree

namespace Report

/-- What a report writes of a node before it goes on below the node. -/
def Format.opening (level : Nat) (e : Entry) : Format → List String
  | text verbose =>
    e.textLine level :: if verbose then e.failures.map (indent level ++ ·.text) else []
  | xml => e.xmlHead level

/-- What a report writes of a node at the end. -/
def Format.closing (level : Nat) : Format → List String
  | text _ => []
  | xml => [closeTag level "Test"]

/-- The report goes on below a node. -/
def Format.descends : Format → Bool
  | text verbose => verbose
  | xml => true

theorem lines_nil (format : Format) (level : Nat) : lines format level .nil = [] := by
  cases format <;> rfl

theorem lines_entry (format : Format) (level : Nat) (e : Entry) (below beside : View) :
    lines format level (.entry e below beside) =
      format.opening level e ++ (if format.descends then lines format (level + 1) below else [])
        ++ format.closing level ++ lines format level beside := by
  cases format with
  | text verbose => cases verbose <;> simp [lines, View.textLines, Format.opening, Format.closing,
      Format.descends]
  | xml => simp [lines, View.xmlLines, Format.opening, Format.closing, Format.descends]

/-- What is written of a first tree comes before what is written of the trees beside it. -/
theorem lines_view_node (format : Format) (level : Nat) (facts : Facts) (below beside : Outline) :
    lines format level (view (.node facts below beside)) =
      lines format level (view (.node facts below .nil)) ++ lines format level (view beside) := by
  cases known : facts.result with
  | none => simp [view, known, lines_nil]
  | some r => simp [view, known, lines_entry, lines_nil]

mutual

/-- Writing a report of node `n` comes to the nodes `ns`, in this order, and writes the lines. -/
inductive Walks (t : Tree) (format : Format) : Nat → NodeId → List NodeId → List String → Prop where
  | unknown {level : Nat} {n : NodeId} (blank : (t.get n).result = none) :
      Walks t format level n [n] []
  | brief {level : Nat} {n : NodeId} {r : Result} (known : (t.get n).result = some r)
      (flat : format.descends = false) :
      Walks t format level n [n]
        (format.opening level (.ofResult (t.get n).name r) ++ format.closing level)
  | nested {level : Nat} {n : NodeId} {r : Result} {ns : List NodeId} {ls : List String}
      (known : (t.get n).result = some r) (deep : format.descends = true)
      (below : WalksAll t format (level + 1) (t.get n).children ns ls) :
      Walks t format level n (n :: ns)
        (format.opening level (.ofResult (t.get n).name r) ++ ls ++ format.closing level)

/-- Writing reports of some nodes, one after the other. -/
inductive WalksAll (t : Tree) (format : Format) :
    Nat → List NodeId → List NodeId → List String → Prop where
  | nil {level : Nat} : WalksAll t format level [] [] []
  | cons {level : Nat} {c : NodeId} {rest ns ns' : List NodeId} {ls ls' : List String}
      (first : Walks t format level c ns ls) (beside : WalksAll t format level rest ns' ls') :
      WalksAll t format level (c :: rest) (ns ++ ns') (ls ++ ls')

end

section Termination

variable {t : Tree} {format : Format} {level : Nat} {n : NodeId}

/-- A walk from a node that can go on below it writes what the report shows of the node. -/
theorem exists_walks_of_children
    (below : ∃ ns, WalksAll t format (level + 1) (t.get n).children ns
        (lines format (level + 1) (view (t.outlineOf (t.below n)))) ∧
      ns.Sublist (t.below n).preorder) :
    ∃ ns, Walks t format level n ns (lines format level (view (t.outline n))) ∧
      ns.Sublist (t.preorder n) := by
  obtain ⟨ns, walks, order⟩ := below
  cases known : (t.get n).result with
  | none =>
      have shown : view (t.outline n) = .nil := view_node_of_unknown known _ _
      rw [shown, lines_nil]
      exact ⟨[n], .unknown known, (List.nil_sublist _).cons_cons n⟩
  | some r =>
      have shown : view (t.outline n) =
          .entry (.ofResult (t.get n).name r) (view (t.outlineOf (t.below n))) .nil :=
        view_node_of_known known _ _
      rw [shown, lines_entry, lines_nil, List.append_nil]
      cases descends : format.descends with
      | false =>
          rw [if_neg (by simp), List.append_nil]
          exact ⟨[n], .brief known descends, (List.nil_sublist _).cons_cons n⟩
      | true =>
          rw [if_pos rfl]
          exact ⟨n :: ns, .nested known descends walks, order.cons_cons n⟩

theorem exists_walksAll (wf : t.WellFormed) (format : Format) (level : Nat) (n : NodeId)
    (cs : List NodeId) (children : ∀ c ∈ cs, c ∈ (t.get n).children) :
    ∃ ns, WalksAll t format level cs ns
        (lines format level (view (t.outlineOf (t.belowAll n cs)))) ∧
      ns.Sublist (t.belowAll n cs).preorder := by
  refine wf.children_induction
    (motive := fun n cs => ∀ level, ∃ ns, WalksAll t format level cs ns
        (lines format level (view (t.outlineOf (t.belowAll n cs)))) ∧
      ns.Sublist (t.belowAll n cs).preorder) ?_ ?_ n cs children level
  · intro n level
    rw [Tree.belowAll, Tree.outlineOf, view, lines_nil]
    exact ⟨[], .nil, .refl _⟩
  · intro n c rest children below beside level
    have first := below (level + 1)
    rw [← Tree.below] at first
    obtain ⟨ns, walks, order⟩ := exists_walks_of_children first
    obtain ⟨ns', walks', order'⟩ := beside level
    rw [wf.belowAll_cons_child (children c List.mem_cons_self), Tree.outlineOf, lines_view_node]
    exact ⟨ns ++ ns', .cons walks walks', order.append order'⟩

/-- From every node there is a walk. It writes the lines of the report and comes to no node
twice. -/
theorem exists_walks (wf : t.WellFormed) (format : Format) (level : Nat) (n : NodeId) :
    ∃ ns, Walks t format level n ns (lines format level (view (t.outline n))) ∧ ns.Nodup := by
  have below := exists_walksAll wf format (level + 1) n (t.get n).children fun _ => id
  rw [← Tree.below] at below
  obtain ⟨ns, walks, order⟩ := exists_walks_of_children below
  exact ⟨ns, walks, order.nodup (wf.nodup_preorder n)⟩

end Termination

end Report

end SuiteTree
