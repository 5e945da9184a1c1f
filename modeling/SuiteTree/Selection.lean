import SuiteTree.Suite
import SuiteTree.Options

/-!
# Selecting suites

A filter asks for a name and a category. Of each selected suite only those children of the root are
kept that take no longer than the filter allows; deeper nodes stay whatever they take.
-/

namespace SuiteTree

/-- The filter asks for this suite. -/
def Filter.admits (f : Filter) (s : Suite) : Bool :=
  f.category.admits s.category && (f.name == "" || s.name == f.name)

/-- Detach the children of the root that take longer than `max`. -/
def Suite.prune (s : Suite) (max : Duration) : Suite :=
  { s with tree := s.tree.prune Tree.root max }

/-- What pruning a selected suite leaves in the log. -/
def Suite.pruneRecords (s : Suite) (max : Duration) : List Record :=
  let count := (s.tree.prunedChildren Tree.root max).length
  s.tree.pruneRecords Tree.root max
    ++ (if count = 0 then []
        else [.info ("Skipping " ++ toString count ++ " case(s) of '" ++ s.name ++ "' longer than "
          ++ max.name)])

namespace Registry

/-- The suites that a filter asks for, in the order of their registration, each one pruned. -/
def select (suites : Registry) (f : Filter) : List Suite :=
  (suites.filter f.admits).map (·.prune f.maxDuration)

/-- What selecting leaves in the log. -/
def selectRecords (suites : Registry) (f : Filter) : List Record :=
  (suites.filter f.admits).flatMap (·.pruneRecords f.maxDuration)

end Registry

end SuiteTree
