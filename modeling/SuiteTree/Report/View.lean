import SuiteTree.Tree.Outline

/-!
# What a report shows

A report shows the nodes that have a result, nested as they are in the tree. A node without a result
is left out together with everything below it.
-/

namespace SuiteTree.Report

/-- What a report shows of one node. -/
structure Entry where
  name : String
  failed : Bool
  elapsed : Time.Elapsed
  failures : List Failure
  deriving Repr, DecidableEq

/-- The status of a node in words. -/
def Entry.status (e : Entry) : String :=
  if e.failed then "FAIL" else "PASS"

/-- An ordered forest of entries. -/
inductive View
  | nil
  | entry (e : Entry) (below beside : View)
  deriving Repr, DecidableEq

/-- What is shown of a node with a result. -/
def Entry.ofResult (name : String) (r : Result) : Entry where
  name
  failed := r.isFailed
  elapsed := r.elapsed
  failures := r.failures

/-- What is shown of an outline. -/
def view : Outline → View
  | .nil => .nil
  | .node facts below beside =>
    match facts.result with
    | none => view beside
    | some r => .entry (.ofResult facts.name r) (view below) (view beside)

section

variable {t : Tree} {n : NodeId}

/-- A node without a result is left out, and so is what is below it. -/
theorem view_node_of_unknown (unknown : (t.get n).result = none) (below beside : Forest) :
    view (t.outlineOf (.node n below beside)) = view (t.outlineOf beside) := by
  simp [Tree.outlineOf, view, Node.facts, unknown]

theorem view_node_of_known {r : Result} (known : (t.get n).result = some r)
    (below beside : Forest) :
    view (t.outlineOf (.node n below beside)) =
      .entry (.ofResult (t.get n).name r) (view (t.outlineOf below)) (view (t.outlineOf beside)) := by
  simp [Tree.outlineOf, view, Node.facts, known]

end

/-- Two blanks for every level. -/
def indent (level : Nat) : String :=
  String.ofList (List.replicate (2 * level) ' ')

end SuiteTree.Report
