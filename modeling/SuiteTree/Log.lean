/-!
# Log records

Everything the library logs is kept, in order, with its level. Which records are shown is decided
where they are shown.
-/

namespace SuiteTree

/-- The weight of a log record. -/
inductive Level
  | error
  | warn
  | info
  | debug
  | trace
  deriving Repr, DecidableEq

namespace Level

def name : Level → String
  | error => "ERROR"
  | warn => "WARN"
  | info => "INFO"
  | debug => "DEBUG"
  | trace => "TRACE"

/-- Position in the order from the weightiest to the most detailed level. -/
def rank : Level → Nat
  | error => 1
  | warn => 2
  | info => 3
  | debug => 4
  | trace => 5

end Level

/-- The least weighty level that is shown, or none at all. -/
inductive Threshold
  | off
  | upTo (level : Level)
  deriving Repr, DecidableEq

namespace Threshold

def name : Threshold → String
  | off => "OFF"
  | upTo level => level.name

/-- Records of this level are shown. -/
def shows : Threshold → Level → Bool
  | off, _ => false
  | upTo limit, level => decide (level.rank ≤ limit.rank)

end Threshold

/-- One log record. -/
structure Record where
  level : Level
  message : String
  deriving Repr, DecidableEq

namespace Record

def error (message : String) : Record := ⟨.error, message⟩
def warn (message : String) : Record := ⟨.warn, message⟩
def info (message : String) : Record := ⟨.info, message⟩
def debug (message : String) : Record := ⟨.debug, message⟩
def trace (message : String) : Record := ⟨.trace, message⟩

/-- The record as a line: its level in brackets, then the message. -/
def line (r : Record) : String :=
  "[" ++ r.level.name ++ "] " ++ r.message ++ "\n"

end Record

/-- What a run tells its user beside the report: log records, which a threshold may hide, and
complaints, which are always shown. -/
inductive Notice
  | record (r : Record)
  | complaint (text : String)
  deriving Repr, DecidableEq

/-- The notices so far, the latest last. -/
abbrev Journal := Array Notice

namespace Journal

def log (journal : Journal) (r : Record) : Journal :=
  journal.push (.record r)

/-- Add several records in order. -/
def logAll (journal : Journal) (rs : List Record) : Journal :=
  rs.foldl log journal

/-- The records that a threshold shows. -/
def shown (journal : Journal) (threshold : Threshold) : List Record :=
  journal.toList.filterMap fun
    | .record r => if threshold.shows r.level then some r else none
    | .complaint _ => none

/-- The text of the records that a threshold shows. -/
def logText (journal : Journal) (threshold : Threshold) : String :=
  String.join ((journal.shown threshold).map Record.line)

/-- The text of the complaints and of the records that a threshold shows. -/
def errorText (journal : Journal) (threshold : Threshold) : String :=
  String.join <| journal.toList.map fun
    | .record r => if threshold.shows r.level then r.line else ""
    | .complaint text => text

end Journal

end SuiteTree
