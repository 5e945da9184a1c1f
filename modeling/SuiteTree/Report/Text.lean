import SuiteTree.Number.Layout
import SuiteTree.Report.View

/-!
# Text reports

One line for a node with its status, name and time. A verbose report goes on with the node's
failures and with everything below the node, one level deeper.
-/

namespace SuiteTree.Report

/-- The line of a node. -/
def Entry.textLine (level : Nat) (e : Entry) : String :=
  indent level ++ e.status ++ " " ++ e.name ++ " "
    ++ Number.fixed 3 e.elapsed.real.toSeconds ++ " s"

/-- The lines of a text report. -/
def View.textLines (verbose : Bool) (level : Nat) : View → List String
  | nil => []
  | entry e below beside =>
    e.textLine level
      :: ((if verbose then
            e.failures.map (fun f => indent level ++ f.text) ++ below.textLines verbose (level + 1)
          else [])
        ++ beside.textLines verbose level)

end SuiteTree.Report
