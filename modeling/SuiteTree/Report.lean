import SuiteTree.Options
import SuiteTree.Report.Text
import SuiteTree.Report.Xml

/-!
# Reports of a run
-/

namespace SuiteTree

/-- How a report is written. An XML report is always complete. -/
inductive Report.Format
  | text (verbose : Bool)
  | xml
  deriving Repr, DecidableEq

namespace Report

/-- The format that options ask for. -/
def Format.ofOptions (options : Options) : Format :=
  if options.xml then .xml else .text options.verbose

/-- The lines of a report. -/
def lines (format : Format) (level : Nat) (v : View) : List String :=
  match format with
  | .text verbose => v.textLines verbose level
  | .xml => v.xmlLines level

/-- Lines as a text; every line is ended. -/
def unlines (lines : List String) : String :=
  String.join (lines.map (· ++ "\n"))

@[simp] theorem unlines_nil : unlines [] = "" := rfl

theorem unlines_cons (l : String) (ls : List String) :
    unlines (l :: ls) = l ++ "\n" ++ unlines ls :=
  String.join_cons

theorem unlines_append (ls ls' : List String) :
    unlines (ls ++ ls') = unlines ls ++ unlines ls' := by
  simp [unlines]

/-- The report of an outline. -/
def render (format : Format) (level : Nat) (outline : Outline) : String :=
  unlines (lines format level (view outline))

end Report

end SuiteTree
