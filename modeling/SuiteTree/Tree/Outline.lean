import SuiteTree.Tree.Forest

/-!
# Trees without numbers

An outline is a tree as an observer sees it: the nodes with what is known of them, nested, and
without the numbers and links by which the tree keeps them. Reports are written from outlines, and
hooks see the tree as one, so neither can depend on the order in which nodes were made.
-/

namespace SuiteTree

/-- What is known of a node apart from its number and its links. -/
structure Facts where
  name : String
  duration : Duration
  /-- The data directory declared by this very node. -/
  dataDir : Option String
  stage : Stage
  result : Option Result
  deriving Repr, DecidableEq

/-- What is known of a node apart from its number and its links. -/
def Node.facts (node : Node) : Facts where
  name := node.name
  duration := node.duration
  dataDir := node.dataDir
  stage := node.stage
  result := node.result

theorem Node.facts_eq_iff {x y : Node} : y.facts = x.facts ↔ y.name = x.name ∧
    y.duration = x.duration ∧ y.dataDir = x.dataDir ∧ y.stage = x.stage ∧ y.result = x.result := by
  simp [facts]

/-- An ordered forest of nodes: a first tree, what is below its root, and the trees beside it. -/
inductive Outline
  | nil
  | node (facts : Facts) (below beside : Outline)
  deriving Repr, DecidableEq, Inhabited

/-- All nodes, each before what is below it. -/
def Outline.preorder : Outline → List Facts
  | nil => []
  | node facts below beside => facts :: (below.preorder ++ beside.preorder)

/-- What a hook sees of the tree. -/
structure Sight where
  /-- The root and what is below it. -/
  whole : Outline
  /-- The running node and what is below it. -/
  own : Outline
  /-- The names from the root down to the running node. -/
  path : List String
  deriving Repr, DecidableEq

namespace Tree

/-- The outline of a forest of nodes. -/
def outlineOf (t : Tree) : Forest → Outline
  | .nil => .nil
  | .node id below beside => .node (t.get id).facts (t.outlineOf below) (t.outlineOf beside)

/-- The outline of a node and what is below it. -/
def outline (t : Tree) (n : NodeId) : Outline :=
  t.outlineOf (.node n (t.below n) .nil)

/-- The tree as hooks of node `n` see it. -/
def sight (t : Tree) (n : NodeId) : Sight where
  whole := t.outline root
  own := t.outline n
  path := t.pathNames n

end Tree

end SuiteTree
