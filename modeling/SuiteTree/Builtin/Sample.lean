import SuiteTree.Check
import SuiteTree.Suite

/-!
# A sample suite

Checks of numbers and of random streams, as an example of a unit suite.
-/

namespace SuiteTree.Builtin.Sample

/-- A place in the source of this suite. -/
def site (line : Nat) (actual limit : String) : Site :=
  ⟨actual, limit, "src/suites/sample.rs", line⟩

/-- Add the reciprocals of `count` successive numbers from `k` on to a sum. -/
def addReciprocals : (count k : Nat) → Float → Float
  | 0, _, sum => sum
  | count + 1, k, sum => addReciprocals count (k + 1) (sum + 1 / k.toFloat)

def arithmetic : Hooks where
  run := .steps [
    ((site 11 "1 + 1" "2").expectEqual (.int (1 + 1)) (.int 2) "integer addition").conduct,
    ((site 12 "2 * 3" "5").expectDistinct (.int (2 * 3)) (.int 5) "integer multiplication").conduct,
    ((site 13 "0.1 + 0.2" "0.3").expectWithin "1e-12" (0.1 + 0.2) 0.3 1e-12
      "floating point addition").conduct]

def doubleComparison : Hooks where
  run := .steps [
    (Program.closeTo 1e6 (1e6 + 1e-7) 1e-12).bind fun close =>
      ((site 20 "double_is_equal(1e6, 1e6 + 1e-7, 1e-12)" "true").expectEqual (.bool close)
        (.bool true) "scaled epsilon").conduct,
    (Program.closeTo 1.0 1.5 1e-3).bind fun close =>
      ((site 21 "double_is_equal(1.0, 1.5, 1e-3)" "false").expectEqual (.bool close)
        (.bool false) "distinct values").conduct]

/-- The case starts from the first stream, whatever its siblings drew. -/
def substreams : Hooks where
  run :=
    .ask .drawStream fun first => .ask .drawStream fun second => .steps [
      ((site 31 "first" "0").expectEqual (.int first) (.int 0)
        "stream index rewound before the case").require.conduct,
      ((site 32 "second" "1").expectEqual (.int second) (.int 1) "stream index advances").conduct]

def harmonicSeries : Hooks where
  run := .steps [
    ((site 40 "sum" "14.392_726_722_865_7").expectWithin "1e-6" (addReciprocals 1000000 1 0)
      14.3927267228657 1e-6 "partial sum of 1/k").conduct]

def plan : Plan where
  name := "sample"
  category := .unit
  steps := [
    .add Tree.root "arithmetic" .quick arithmetic,
    .add Tree.root "double-comparison" .quick doubleComparison,
    .add Tree.root "substreams" .quick substreams,
    .add Tree.root "harmonic-series" .extensive harmonicSeries]

end SuiteTree.Builtin.Sample
