import SuiteTree.Tree

/-!
# The shape below a node

A forest is the nested form of the children lists below a node. Runs and reports follow it, so they
are recursive on data. `Tree.below` reads it off a tree; links that do not lead from an older node
to a younger one are left out, and there are none in the trees that the operations build.
-/

namespace SuiteTree

/-- An ordered forest of node numbers: a first tree, what is below its root, and the trees beside
it. -/
inductive Forest
  | nil
  | node (id : NodeId) (below beside : Forest)
  deriving Repr, DecidableEq, Inhabited

namespace Forest

/-- All numbers, each before what is below it. -/
def preorder : Forest → List NodeId
  | nil => []
  | node id below beside => id :: (below.preorder ++ beside.preorder)

/-- All numbers with their depths, the roots having depth `depth`. -/
def withDepths (depth : Nat) : Forest → List (Nat × NodeId)
  | nil => []
  | node id below beside =>
    (depth, id) :: (below.withDepths (depth + 1) ++ beside.withDepths depth)

end Forest

namespace Tree

mutual

/-- The forest of a node's children. -/
def below (t : Tree) (n : NodeId) : Forest :=
  t.belowAll n (t.get n).children
termination_by (t.size - n, 1, 0)

/-- The forest of some children of a node. -/
def belowAll (t : Tree) (n : NodeId) (cs : List NodeId) : Forest :=
  match cs with
  | [] => .nil
  | c :: rest =>
    if h : n < c ∧ c < t.size then
      have : t.size - c < t.size - n := Nat.sub_lt_sub_left (Nat.lt_trans h.1 h.2) h.1
      .node c (t.below c) (t.belowAll n rest)
    else t.belowAll n rest
termination_by (t.size - n, 0, cs.length)

end

/-- A node and all nodes below it, each before what is below it. -/
def preorder (t : Tree) (n : NodeId) : List NodeId :=
  n :: (t.below n).preorder

end Tree

end SuiteTree
