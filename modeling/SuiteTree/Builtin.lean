import SuiteTree.Builtin.Directories
import SuiteTree.Builtin.Fixtures
import SuiteTree.Builtin.Lifecycle
import SuiteTree.Builtin.Sample

/-!
# The suites that come with the runner
-/

namespace SuiteTree.Builtin

/-- The suites of every run, in the order of a listing. -/
def plans : List Plan :=
  [Sample.plan, Directories.plan, Lifecycle.plan]

/-- The suites that end badly on purpose. -/
def fixturePlans : List Plan :=
  [Fixtures.failing, Fixtures.missingDataDir]

end SuiteTree.Builtin
