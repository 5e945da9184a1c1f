import SuiteTree.Category
import SuiteTree.Duration
import SuiteTree.Path

/-!
# What a run is asked to do
-/

namespace SuiteTree

/-- Which suites are asked for, and how long their cases may take. -/
structure Filter where
  /-- The name of the suite; the empty name stands for every name. -/
  name : String := ""
  category : Category := .all
  maxDuration : Duration := .quick
  deriving Repr, DecidableEq, Inhabited

/-- Where the report goes. -/
inductive Output
  | console
  | file (path : Path) (append : Bool)
  deriving Repr, DecidableEq, Inhabited

/-- The options of one run. -/
structure Options where
  filter : Filter := {}
  verbose : Bool := false
  xml : Bool := false
  /-- End the process at the first reported failure. -/
  assertOnFailure : Bool := false
  /-- A hook goes on after a failed expectation. -/
  continueOnFailure : Bool := true
  /-- Files are written into the data directory rather than the temporary one. -/
  updateData : Bool := false
  tempDir : Path := .empty
  /-- Where data directories are looked for. The top of the source tree is searched for one if it
  is not given. -/
  dataDir : Option Path := none
  output : Output := .console
  printTempDir : Bool := false
  printNames : Bool := false
  printTypes : Bool := false
  printTypeList : Bool := false
  deriving Repr, DecidableEq, Inhabited

/-- What hooks are told of the options of their run. -/
structure Policy where
  assertOnFailure : Bool
  continueOnFailure : Bool
  updateData : Bool
  deriving Repr, DecidableEq

def Options.policy (options : Options) : Policy where
  assertOnFailure := options.assertOnFailure
  continueOnFailure := options.continueOnFailure
  updateData := options.updateData

end SuiteTree
