import SuiteTree.Ambient
import SuiteTree.Files
import SuiteTree.Hook
import SuiteTree.Time.Clock

/-!
# The surroundings of a run

Everything a run can observe or change beside its tree: the ambient state, the files, the readings
of the clocks, what hooks remember, the notices for the user, and the events so far.
-/

namespace SuiteTree

/-- What happened in a run: what the runner did to the ambient state and to the tree, which hooks it
called, and what hooks asked for and were told. -/
inductive Event
  /-- A node was entered: what was known of it is forgotten, and the overrides were dropped. -/
  | entered (node : NodeId)
  /-- The overrides were dropped because a node was left. -/
  | left (node : NodeId)
  /-- The random streams were rewound for a child. -/
  | rewound (child : NodeId)
  /-- A node came into a stage. -/
  | staged (node : NodeId) (stage : Stage)
  /-- The time that a node took was noted. -/
  | timed (node : NodeId) (elapsed : Time.Elapsed)
  /-- A hook was called; it found the tree in this state. -/
  | called (node : NodeId) (phase : Phase) (tree : Tree)
  /-- A request of a hook was answered. -/
  | answered (node : NodeId) (request : Request) (reply : request.Reply)

/-- The process as a run sees it. -/
structure Host where
  /-- The directory of the running program. -/
  programDir : Path := .empty
  /-- The directory of the system for temporary files. -/
  temporaryDir : Path := .empty
  /-- The local time at the start, as a part of names. -/
  stamp : String := ""
  processId : Nat := 0
  deriving Repr, DecidableEq, Inhabited

/-- A directory name for temporary files that no earlier process has used. -/
def Host.temporaryName (host : Host) : Path :=
  host.temporaryDir ++ ⟨"simtest." ++ host.stamp ++ "." ++ toString host.processId⟩

/-- The surroundings of a run. -/
structure World where
  ambient : Ambient := {}
  files : Files := {}
  supply : Time.Supply := {}
  /-- What hooks remember. Of several pairs with one key the first counts. -/
  memory : List (String × Value) := []
  journal : Journal := #[]
  events : Array Event := #[]
  host : Host := {}
  deriving Inhabited

namespace World

def log (w : World) (r : Record) : World :=
  { w with journal := w.journal.log r }

/-- Log several records in order. -/
def logAll (w : World) (rs : List Record) : World :=
  { w with journal := w.journal.logAll rs }

/-- Tell the user about an error. -/
def complain (w : World) (cause : Error) : World :=
  { w with
    journal := (w.journal.log (.error cause.message)).push
      (.complaint ("Error:  " ++ cause.message ++ "\n")) }

/-- Add an event. -/
def emit (w : World) (e : Event) : World :=
  { w with events := w.events.push e }

/-- Drop all attribute overrides. -/
def resetAttributes (w : World) : World :=
  { w.logAll w.ambient.resetRecords with ambient := w.ambient.reset }

/-- Let the next random stream be the first one again. -/
def rewindStreams (w : World) : World :=
  { w with ambient := w.ambient.rewind }

/-- Override an attribute. -/
def assign (w : World) (key value : String) : World :=
  { w with ambient := w.ambient.set key value }

/-- Hand out a random stream. -/
def drawStream (w : World) : Nat × World :=
  let (stream, ambient) := w.ambient.draw
  (stream, { w with ambient })

/-- Read the clocks. -/
def readClocks (w : World) : Time.Reading × World :=
  let (reading, supply) := w.supply.next
  (reading, { w with supply })

/-- What was remembered under a key. -/
def remembered (w : World) (key : String) : Option Value :=
  w.memory.lookup key

/-- Remember a value under a key. -/
def remember (w : World) (key : String) (value : Value) : World :=
  { w with memory := (key, value) :: w.memory.filter (·.1 != key) }

end World

end SuiteTree
