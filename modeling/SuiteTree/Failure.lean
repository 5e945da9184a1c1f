import SuiteTree.Time.Elapsed

/-!
# Failure records and the results of nodes
-/

namespace SuiteTree

/-- A failed check, described for the reader of a report. -/
structure Failure where
  condition : String
  actual : String
  limit : String
  message : String
  file : String
  line : Nat
  deriving Repr, DecidableEq

/-- The failure as a line of a text report, without the indentation of its node. -/
def Failure.text (f : Failure) : String :=
  "    test=\"" ++ f.condition ++ "\" actual=\"" ++ f.actual ++ "\" limit=\"" ++ f.limit
    ++ "\" in=\"" ++ f.file ++ ":" ++ toString f.line ++ "\" " ++ f.message

/-- What has been found out about a node since it was last entered. -/
structure Result where
  elapsed : Time.Elapsed := .zero
  /-- The failures reported by the node itself, in the order of their reports. -/
  failures : List Failure := []
  /-- A node below this one has reported a failure. -/
  childrenFailed : Bool := false
  deriving Repr, DecidableEq

namespace Result

/-- A failure was reported here or below. -/
def isFailed (r : Result) : Bool :=
  r.childrenFailed || !r.failures.isEmpty

/-- No failure was reported here; nodes below do not count. -/
def isPassing (r : Result) : Bool :=
  r.failures.isEmpty

@[simp] theorem isFailed_eq_true_iff {r : Result} :
    r.isFailed = true ↔ r.childrenFailed = true ∨ r.failures ≠ [] := by
  cases h : r.failures <;> simp [isFailed, h]

@[simp] theorem isPassing_eq_true_iff {r : Result} : r.isPassing = true ↔ r.failures = [] := by
  cases h : r.failures <;> simp [isPassing, h]

end Result

end SuiteTree
