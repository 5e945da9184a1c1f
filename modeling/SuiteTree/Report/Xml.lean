import SuiteTree.Number.Layout
import SuiteTree.Report.View
import SuiteTree.Text.Escape

/-!
# XML reports

One element for a node, with elements for its name, its status, its times, its failures, and, one
level deeper, everything below the node. Texts are escaped.
-/

namespace SuiteTree.Report

/-- The opening tag of an element. -/
def openTag (level : Nat) (tag : String) : String :=
  indent level ++ "<" ++ tag ++ ">"

/-- The closing tag of an element. -/
def closeTag (level : Nat) (tag : String) : String :=
  indent level ++ "</" ++ tag ++ ">"

/-- An element on a line of its own, around a text that is already escaped. -/
def element (level : Nat) (tag text : String) : String :=
  indent level ++ "<" ++ tag ++ ">" ++ text ++ "</" ++ tag ++ ">"

/-- The lines of a failure. -/
def failureLines (level : Nat) (f : Failure) : List String :=
  [openTag level "FailureDetails",
    element (level + 1) "Condition" (Text.escape f.condition),
    element (level + 1) "Actual" (Text.escape f.actual),
    element (level + 1) "Limit" (Text.escape f.limit),
    element (level + 1) "Message" (Text.escape f.message),
    element (level + 1) "File" (Text.escape f.file),
    element (level + 1) "Line" (toString f.line),
    closeTag level "FailureDetails"]

/-- The times of a node, as the attributes of one tag. -/
def Entry.timeTag (level : Nat) (e : Entry) : String :=
  let seconds (span : Time.Span) := Number.fixed 3 span.toSeconds
  indent level ++ "<Time real=\"" ++ seconds e.elapsed.real ++ "\" user=\""
    ++ seconds e.elapsed.user ++ "\" system=\"" ++ seconds e.elapsed.system ++ "\"/>"

/-- The lines that open the element of a node: its tag, name, status, times and failures. -/
def Entry.xmlHead (level : Nat) (e : Entry) : List String :=
  [openTag level "Test", element (level + 1) "Name" (Text.escape e.name),
    element (level + 1) "Result" e.status, e.timeTag (level + 1)]
    ++ e.failures.flatMap (failureLines (level + 2))

/-- The lines of an XML report. -/
def View.xmlLines (level : Nat) : View → List String
  | nil => []
  | entry e below beside =>
    e.xmlHead level ++ below.xmlLines (level + 1) ++ closeTag level "Test" :: beside.xmlLines level

end SuiteTree.Report
