import SuiteTree.Files
import SuiteTree.Log

/-!
# Log files

A log file takes the records that its threshold shows, each at the end of the file as it is then.
-/

namespace SuiteTree

/-- A file that takes log records. -/
structure LogFile where
  location : Location
  threshold : Threshold
  /-- How many notices have been dealt with. -/
  settled : Nat := 0
  deriving Repr, DecidableEq

namespace LogFile

/-- Write the records that are not in the file yet. -/
def settle (logFile : LogFile) (journal : Journal) (files : Files) : LogFile × Files :=
  let fresh : Journal := (journal.toList.drop logFile.settled).toArray
  ({ logFile with settled := journal.size },
    files.extend logFile.location (fresh.logText logFile.threshold))

end LogFile

end SuiteTree
