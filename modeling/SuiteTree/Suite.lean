import SuiteTree.Category
import SuiteTree.Hook

/-!
# Suites

A suite is a tree with a category and with hooks for its nodes. It is built from a plan, step by
step, so that everything known of its construction is data.
-/

namespace SuiteTree

/-- A tree of tests with the hooks of its nodes. -/
structure Suite where
  category : Category
  tree : Tree
  /-- The hooks of the nodes, by number. -/
  hooks : Array Hooks

/-- A step in the construction of a suite. -/
inductive PlanStep
  /-- Append a child to a node. -/
  | add (parent : NodeId) (name : String) (duration : Duration) (hooks : Hooks)
  /-- Declare the data directory of a node. -/
  | declareData (node : NodeId) (dir : String)

/-- How a suite is built: its root, and the steps that follow. -/
structure Plan where
  name : String
  category : Category
  /-- The hooks of the root. -/
  hooks : Hooks := .idle
  steps : List PlanStep := []

namespace Suite

/-- A suite that has a root only. -/
def new (name : String) (category : Category) (hooks : Hooks) : Suite :=
  ⟨category, .new name, #[hooks]⟩

instance : Inhabited Suite := ⟨new "" .all .idle⟩

def name (s : Suite) : String :=
  (s.tree.get Tree.root).name

/-- The hooks of a node. -/
def hooksOf (s : Suite) (n : NodeId) : Hooks :=
  s.hooks.getD n .idle

/-- Carry out one step of a plan. -/
def build (s : Suite) : PlanStep → Suite
  | .add parent name duration hooks =>
    { s with tree := (s.tree.add parent name duration).2, hooks := s.hooks.push hooks }
  | .declareData node dir => { s with tree := s.tree.setDataDir node dir }

/-- What one step of a plan leaves in the log. -/
def buildRecords (s : Suite) : PlanStep → List Record
  | .add parent name _ _ => s.tree.addRecords parent name
  | .declareData _ _ => []

/-- What the steps of a plan leave in the log. -/
def allRecords (s : Suite) : List PlanStep → List Record
  | [] => []
  | step :: rest => s.buildRecords step ++ (s.build step).allRecords rest

/-- A failure was reported somewhere in the suite. -/
def isFailed (s : Suite) : Bool :=
  s.tree.isFailed Tree.root

/-- Suite and category as log records name them. -/
def title (s : Suite) : String :=
  "suite '" ++ s.name ++ "' (" ++ s.category.name ++ ")"

/-- What registering a suite leaves in the log. -/
def registerRecords (s : Suite) : List Record :=
  [.debug ("Registered " ++ s.title)]

end Suite

namespace Plan

/-- The suite before the first step. -/
def start (p : Plan) : Suite :=
  .new p.name p.category p.hooks

/-- The suite that a plan describes. -/
def suite (p : Plan) : Suite :=
  p.steps.foldl Suite.build p.start

/-- What building and registering the suite leaves in the log. -/
def records (p : Plan) : List Record :=
  p.start.allRecords p.steps ++ p.suite.registerRecords

end Plan

/-- All suites of a program, in the order of their registration. -/
abbrev Registry := List Suite

/-- Build and register suites in order. -/
def Registry.ofPlans (plans : List Plan) : Registry :=
  plans.map Plan.suite

/-- What building and registering suites leaves in the log. -/
def Registry.recordsOfPlans (plans : List Plan) : List Record :=
  plans.flatMap Plan.records

end SuiteTree
