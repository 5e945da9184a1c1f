import SuiteTree.Report

/-!
# What a report prints

A printout is what can be seen of a tree in a report on paper: for every node with a result its
name, its status, its times in the digits in which they are printed, its failures, and the printouts
below it. Times that differ by less than a millisecond may give the same printout. It is what a
verbose text report and an XML report have in common.
-/

namespace SuiteTree

namespace Report

/-- What a report prints of one node. -/
structure Printed where
  name : String
  failed : Bool
  real : String
  user : String
  system : String
  failures : List Failure
  deriving Repr, DecidableEq

/-- An ordered forest of printed nodes. -/
inductive Printout
  | nil
  | entry (e : Printed) (below beside : Printout)
  deriving Repr, DecidableEq

/-- A span of time as it is printed. -/
def seconds (span : Time.Span) : String :=
  Number.fixed 3 span.toSeconds

/-- What is printed of an entry. -/
def Entry.printed (e : Entry) : Printed where
  name := e.name
  failed := e.failed
  real := seconds e.elapsed.real
  user := seconds e.elapsed.user
  system := seconds e.elapsed.system
  failures := e.failures

/-- What is printed of a view. -/
def View.printout : View → Printout
  | nil => .nil
  | entry e below beside => .entry e.printed below.printout beside.printout

/-- The lines of a node in a verbose text report. -/
def Printed.textLines (level : Nat) (e : Printed) : List String :=
  (indent level ++ (if e.failed then "FAIL" else "PASS") ++ " " ++ e.name ++ " " ++ e.real ++ " s")
    :: e.failures.map fun f => indent level ++ f.text

/-- The lines of a verbose text report. -/
def Printout.textLines (level : Nat) : Printout → List String
  | nil => []
  | entry e below beside =>
    e.textLines level ++ below.textLines (level + 1) ++ beside.textLines level

/-- A verbose text report shows nothing beyond the printout. -/
theorem textLines_eq_printout (level : Nat) (v : View) :
    v.textLines true level = v.printout.textLines level := by
  induction v generalizing level with
  | nil => rfl
  | entry e below beside ihBelow ihBeside =>
      simp [View.textLines, View.printout, Printout.textLines, Printed.textLines, Entry.printed,
        Entry.textLine, Entry.status, seconds, ihBelow, ihBeside]

theorem render_text_eq_printout (level : Nat) (outline : Outline) :
    render (.text true) level outline = unlines ((view outline).printout.textLines level) := by
  rw [← textLines_eq_printout]
  rfl

end Report

/-- What a report prints of a node and what is below it. -/
def Tree.printout (t : Tree) (n : NodeId) : Report.Printout :=
  (Report.view (t.outline n)).printout

end SuiteTree
