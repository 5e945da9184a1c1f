import SuiteTree.Check
import SuiteTree.Suite

/-!
# Suites that end badly

They are registered on request only, and let the ways in which a run fails be seen.
-/

namespace SuiteTree.Builtin.Fixtures

def mismatch : Hooks where
  run := .steps [
    ((⟨"1 + 1", "3", "src/suites/fixtures.rs", 12⟩ : Site).expectEqual (.int (1 + 1)) (.int 3)
      "always fails").conduct]

def failing : Plan where
  name := "failing-fixture"
  category := .unit
  steps := [.add Tree.root "mismatch" .quick mismatch]

/-- Asks for a data file although no data directory is declared. -/
def referenceFile : Hooks where
  run := (Program.dataFileOrExit "reference.txt").bind fun path =>
    .request (.log (.debug ("Unreachable without a data dir: " ++ path.text)))

def missingDataDir : Plan where
  name := "missing-data-dir-fixture"
  category := .unit
  steps := [.add Tree.root "reference-file" .quick referenceFile]

end SuiteTree.Builtin.Fixtures
