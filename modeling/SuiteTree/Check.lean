import SuiteTree.Hook
import SuiteTree.Number.Tolerance

/-!
# Checks

A check that does not hold reports a failure. An expectation then lets the hook go on, unless the
run stops at failures; a requirement always ends the hook.
-/

namespace SuiteTree

/-- A check with its outcome. -/
structure Check where
  holds : Bool
  /-- The record of the failure, for the case that it does not hold. -/
  failure : Failure
  /-- The hook ends when the check does not hold. -/
  required : Bool := false
  deriving Repr, DecidableEq

/-- Where a check stands in the source of its suite, and how its two sides are worded there. -/
structure Site where
  actual : String
  limit : String
  file : String
  line : Nat
  deriving Repr, DecidableEq

namespace Site

/-- The failure record of a check at this site. -/
def failure (site : Site) (condition : String) (actual limit : Value) (message : String) :
    Failure where
  condition
  actual := actual.render
  limit := limit.render
  message
  file := site.file
  line := site.line

/-- The two values are equal. -/
def expectEqual (site : Site) (actual limit : Value) (message : String) : Check where
  holds := actual.same limit
  failure := site.failure (site.actual ++ " (actual) == " ++ site.limit ++ " (limit)")
    actual limit message

/-- The two values differ. -/
def expectDistinct (site : Site) (actual limit : Value) (message : String) : Check where
  holds := !actual.same limit
  failure := site.failure (site.actual ++ " (actual) != " ++ site.limit ++ " (limit)")
    actual limit message

/-- The distance of the two doubles is not greater than the tolerance. A distance that is no number
is not greater either. -/
def expectWithin (site : Site) (toleranceWords : String) (actual limit tolerance : Float)
    (message : String) : Check where
  holds := !Number.farther actual limit tolerance
  failure := site.failure
    (site.actual ++ " (actual) within " ++ toleranceWords ++ " of " ++ site.limit ++ " (limit)")
    (.number actual) (.number limit) message

end Site

namespace Check

/-- The same check as a requirement. -/
def require (c : Check) : Check :=
  { c with required := true }

/-- Carry out a check as a step of a hook. -/
def conduct (c : Check) : Program Bool :=
  if c.holds then .pure true
  else
    .ask (.fail c.failure) fun _ =>
      if c.required then .pure false
      else .ask .options fun policy => .pure policy.continueOnFailure

end Check

/-- Compare two doubles within a scaled tolerance and log the comparison. -/
def Program.closeTo (x y epsilon : Float) : Program Bool :=
  let text := Number.Layout.message.render
  .ask (.log (.trace ("Comparing " ++ text x ++ " to " ++ text y ++ " within " ++ text epsilon)))
    fun _ => .pure (Number.closeTo x y epsilon)

end SuiteTree
