import SuiteTree.Duration
import SuiteTree.Failure
import SuiteTree.Log
import SuiteTree.Path.Fragment

/-!
# Trees of named nodes

A tree keeps its nodes in the order of their creation; a node is known by its number in that order,
and the root is number zero. Links to parents and to children are stored side by side. Every
operation is total: asked about a number that no node has, it answers as for an untouched node and
changes nothing.

What an operation leaves in the log is a function of its own, named like the operation.
-/

namespace SuiteTree

/-- The number of a node in the order of creation. -/
abbrev NodeId := Nat

/-- How far a node has come in its run. -/
inductive Stage
  | idle
  | settingUp
  | runningChildren
  | runningSelf
  | tearingDown
  | done
  deriving Repr, DecidableEq, Inhabited

namespace Stage

def name : Stage → String
  | idle => "Idle"
  | settingUp => "SettingUp"
  | runningChildren => "RunningChildren"
  | runningSelf => "RunningSelf"
  | tearingDown => "TearingDown"
  | done => "Done"

end Stage

/-- A node. -/
structure Node where
  name : String
  duration : Duration := .quick
  /-- The data directory declared by this very node. -/
  dataDir : Option String := none
  /-- The children, in the order in which they run. -/
  children : List NodeId := []
  parent : Option NodeId := none
  stage : Stage := .idle
  /-- The node still has its hooks; it loses them when it is pruned. -/
  hooked : Bool := true
  /-- What is known of the node: nothing until it is entered or a failure is reported to it. -/
  result : Option Result := none
  deriving Repr, DecidableEq

instance : Inhabited Node := ⟨{ name := "" }⟩

/-- A tree, as its nodes in the order of their creation. -/
structure Tree where
  nodes : Array Node
  deriving Repr, DecidableEq, Inhabited

namespace Tree

/-- A tree that has a root only. -/
def new (name : String) : Tree :=
  ⟨#[{ name }]⟩

/-- The number of the root. -/
def root : NodeId := 0

/-- How many nodes were ever made; the next node gets this number. -/
def size (t : Tree) : Nat :=
  t.nodes.size

/-- The node with a number. -/
def get (t : Tree) (n : NodeId) : Node :=
  t.nodes.getD n default

/-- Change one node. -/
def update (t : Tree) (n : NodeId) (f : Node → Node) : Tree :=
  ⟨t.nodes.modify n f⟩

@[simp] theorem size_update (t : Tree) (n : NodeId) (f : Node → Node) :
    (t.update n f).size = t.size := by
  simp [update, size]

theorem get_update_self {t : Tree} {n : NodeId} (f : Node → Node) (h : n < t.size) :
    (t.update n f).get n = f (t.get n) := by
  have h' : n < t.nodes.size := h
  simp [get, update, Array.getD, h', Array.getElem_modify]

theorem get_update_of_ne {t : Tree} {m n : NodeId} (f : Node → Node) (h : m ≠ n) :
    (t.update n f).get m = t.get m := by
  by_cases hm : m < t.nodes.size
  · simp [get, update, Array.getD, hm, Array.getElem_modify, Ne.symm h]
  · simp [get, update, Array.getD, hm]

/-- The node itself, its parent, the parent's parent, and so on. A node is made after its parent, so
the numbers go down; a link that does not go down is not followed. -/
def ancestors (t : Tree) (n : NodeId) : List NodeId :=
  match (t.get n).parent with
  | some p => if p < n then n :: t.ancestors p else [n]
  | none => [n]
termination_by n

/-- The data directory declared nearest to a node on the way to the root. -/
def dataDir (t : Tree) (n : NodeId) : Option String :=
  (t.ancestors n).findSome? fun a => (t.get a).dataDir

/-- The names from the root down to a node. -/
def pathNames (t : Tree) (n : NodeId) : List String :=
  ((t.ancestors n).map fun a => (t.get a).name).reverse

/-- A failure was reported to the node or below it. -/
def isFailed (t : Tree) (n : NodeId) : Bool :=
  match (t.get n).result with
  | some r => r.isFailed
  | none => false

/-- No failure was reported to the node itself. -/
def isPassing (t : Tree) (n : NodeId) : Bool :=
  match (t.get n).result with
  | some r => r.isPassing
  | none => true

/-- Append a child to a node. -/
def add (t : Tree) (parent : NodeId) (name : String) (duration : Duration) : NodeId × Tree :=
  let id := t.size
  let grown : Tree := ⟨t.nodes.push { name, duration, parent := some parent }⟩
  (id, grown.update parent fun p => { p with children := p.children ++ [id] })

/-- What adding a child leaves in the log. A suspect name is accepted with a warning. -/
def addRecords (t : Tree) (parent : NodeId) (name : String) : List Record :=
  (if Path.isSuspect name then
    [.warn ("Invalid test name: cannot contain any of '\"/\\|?': " ++ name)] else [])
    ++ [.trace ("Adding '" ++ name ++ "' under '" ++ (t.get parent).name ++ "'")]

/-- Declare the data directory of a node. -/
def setDataDir (t : Tree) (n : NodeId) (dir : String) : Tree :=
  t.update n fun node => { node with dataDir := some dir }

/-- Append a failure to what is known of a node. -/
def recordFailure (t : Tree) (n : NodeId) (failure : Failure) : Tree :=
  t.update n fun node =>
    let r := node.result.getD {}
    { node with result := some { r with failures := r.failures ++ [failure] } }

/-- Note that a failure was reported below a node. -/
def markFailedBelow (t : Tree) (n : NodeId) : Tree :=
  t.update n fun node =>
    { node with result := some { node.result.getD {} with childrenFailed := true } }

/-- Report a failure to a node: the node records it, and every node above is marked. -/
def reportFailure (t : Tree) (n : NodeId) (failure : Failure) : Tree :=
  ((t.ancestors n).drop 1).foldl markFailedBelow (t.recordFailure n failure)

/-- What reporting a failure leaves in the log. -/
def reportFailureRecords (t : Tree) (n : NodeId) (failure : Failure) : List Record :=
  [.debug ("Failure in '" ++ (t.get n).name ++ "': " ++ failure.text)]

/-- The children of a node that take no longer than `max`. -/
def keptChildren (t : Tree) (n : NodeId) (max : Duration) : List NodeId :=
  (t.get n).children.filter fun c => decide ((t.get c).duration ≤ max)

/-- The children of a node that take longer than `max`. -/
def prunedChildren (t : Tree) (n : NodeId) (max : Duration) : List NodeId :=
  (t.get n).children.filter fun c => !decide ((t.get c).duration ≤ max)

/-- Cut a node off from its parent and take its hooks away. -/
def detach (t : Tree) (n : NodeId) : Tree :=
  t.update n fun node => { node with parent := none, hooked := false }

/-- Detach the children of a node that take longer than `max`. -/
def prune (t : Tree) (n : NodeId) (max : Duration) : Tree :=
  ((t.prunedChildren n max).foldl detach t).update n fun node =>
    { node with children := t.keptChildren n max }

/-- How many children pruning detaches. -/
def prunedCount (t : Tree) (n : NodeId) (max : Duration) : Nat :=
  (t.prunedChildren n max).length

/-- What pruning leaves in the log. -/
def pruneRecords (t : Tree) (n : NodeId) (max : Duration) : List Record :=
  (t.prunedChildren n max).map fun c =>
    .debug ("Pruning '" ++ (t.get c).name ++ "' (" ++ (t.get c).duration.name ++ " > "
      ++ max.name ++ ")")

/-- Let a node enter a stage. -/
def setStage (t : Tree) (n : NodeId) (stage : Stage) : Tree :=
  t.update n fun node => { node with stage }

/-- What entering a stage leaves in the log. -/
def setStageRecords (t : Tree) (n : NodeId) (stage : Stage) : List Record :=
  [.trace ("'" ++ (t.get n).name ++ "' " ++ (t.get n).stage.name ++ " -> " ++ stage.name)]

/-- Forget what is known of a node, because it is entered anew. -/
def beginResult (t : Tree) (n : NodeId) : Tree :=
  t.update n fun node => { node with result := some {} }

/-- Note the time that a node took. -/
def setElapsed (t : Tree) (n : NodeId) (elapsed : Time.Elapsed) : Tree :=
  t.update n fun node => { node with result := node.result.map fun r => { r with elapsed } }

end Tree

end SuiteTree
