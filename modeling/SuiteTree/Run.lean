import SuiteTree.DataFiles
import SuiteTree.Tree.Forest

/-!
# Running a node

A node runs in a fixed order: its setup hook, its children one after the other, its own run hook,
its teardown hook. As soon as a child leaves the node failed, the remaining children and the run
hook are skipped; the teardown hook is called all the same. Attribute overrides are dropped when a
node is entered and when it is left, and the random streams are rewound before every child.
-/

namespace SuiteTree

/-- How a run ends the process before it is over. -/
inductive Halt
  /-- The process is aborted, for a debugger. -/
  | aborted
  | exited (code : ExitCode)
  deriving Repr, DecidableEq

/-- A tree in its surroundings. -/
structure State where
  tree : Tree
  world : World
  deriving Inhabited

namespace State

variable (s : State)

def log (r : Record) : State :=
  { s with world := s.world.log r }

def emit (e : Event) : State :=
  { s with world := s.world.emit e }

/-- Report a failure to a node. -/
def reportFailure (n : NodeId) (failure : Failure) : State where
  tree := s.tree.reportFailure n failure
  world := s.world.logAll (s.tree.reportFailureRecords n failure)

/-- Let a node enter a stage. -/
def setStage (n : NodeId) (stage : Stage) : State where
  tree := s.tree.setStage n stage
  world := (s.world.logAll (s.tree.setStageRecords n stage)).emit (.staged n stage)

/-- Note the time that a node took. -/
def setElapsed (n : NodeId) (elapsed : Time.Elapsed) : State where
  tree := s.tree.setElapsed n elapsed
  world := s.world.emit (.timed n elapsed)

/-- Enter a node: what was known of it is forgotten, and so are all overrides. -/
def enter (n : NodeId) : State where
  tree := s.tree.beginResult n
  world := ((s.world.log (.debug ("Running '" ++ (s.tree.get n).name ++ "'"))).emit
    (.entered n)).resetAttributes

/-- Leave a node: all overrides are forgotten. -/
def leave (n : NodeId) : State where
  tree := s.tree
  world := (s.world.emit (.left n)).resetAttributes

/-- Let the first random stream be the next one for a child. -/
def rewindFor (child : NodeId) : State :=
  { s with world := (s.world.emit (.rewound child)).rewindStreams }

end State

/-- A computation on a state that may end the process. -/
abbrev Run := EStateM Halt State

namespace Run

/-- Obtain an answer from the surroundings and change them. -/
def onWorld {α : Type} (f : World → α × World) : Run α := do
  let s ← get
  let (answer, world) := f s.world
  set { s with world }
  pure answer

/-- Read the clocks. -/
def readClocks : Run Time.Reading :=
  onWorld World.readClocks

end Run

section

variable (options : Options)

/-- The reply to a request of a hook of node `n`. -/
def Request.reply (n : NodeId) : (r : Request) → Run r.Reply
  | fail failure => do
    modify (·.reportFailure n failure)
    if options.assertOnFailure then
      modify fun s =>
        s.log (.error ("Assertion failure in '" ++ (s.tree.get n).name ++ "', aborting"))
      throw .aborted
  | isFailed => do pure ((← get).tree.isFailed n)
  | isPassing => do pure ((← get).tree.isPassing n)
  | .options => pure options.policy
  | tree => do pure ((← get).tree.sight n)
  | assign key value => Run.onWorld fun w => ((), w.assign key value)
  | lookup key => do pure ((← get).world.ambient.get key)
  | resetAttributes => Run.onWorld fun w => ((), w.resetAttributes)
  | drawStream => Run.onWorld World.drawStream
  | rewindStreams => Run.onWorld fun w => ((), w.rewindStreams)
  | dataFile name => do
    let s ← get
    pure (s.tree.dataFile s.world options n name)
  | tempFile name => do
    let s ← get
    Run.onWorld fun w => s.tree.tempFile w options n name
  | readFile path => do pure ((← get).world.files.readText path)
  | writeFile path text => Run.onWorld fun w =>
    match w.files.writeText path text with
    | .ok files => (.ok (), { w with files })
    | .error cause => (.error cause, w)
  | remembered key => do pure ((← get).world.remembered key)
  | remember key value => Run.onWorld fun w => ((), w.remember key value)
  | .log record => modify (·.log record)
  | note _ => pure ()
  | exit cause => do
    modify fun s => { s with world := s.world.complain cause }
    throw (.exited cause.exitCode)

/-- Answer a request of a hook of node `n`. -/
def Request.answer (n : NodeId) (r : Request) : Run r.Reply := do
  let reply ← r.reply options n
  modify (·.emit (.answered n r reply))
  pure reply

/-- Carry out a hook of node `n`. -/
def Program.conduct {α : Type} (n : NodeId) : Program α → Run α
  | .pure a => Pure.pure a
  | .ask request next => do
    let reply ← request.answer options n
    (next reply).conduct n

variable (hooks : NodeId → Hooks)

/-- Call a hook of node `n`, unless the node has lost its hooks. -/
def callHook (n : NodeId) (phase : Phase) : Run Unit := do
  modify (·.setStage n phase.stage)
  let s ← get
  if (s.tree.get n).hooked then
    set (s.emit (.called n phase s.tree))
    ((hooks n).at phase).conduct options n

/-- Enter node `n` and call its setup hook. The value is the reading at which its time begins. -/
def openNode (n : NodeId) : Run Time.Reading := do
  modify (·.enter n)
  callHook options hooks n .setup
  let started ← Run.readClocks
  modify (·.setStage n .runningChildren)
  pure started

/-- Call the run hook of node `n`, unless its children were abandoned. -/
def runSelf (n : NodeId) (abandoned : Bool) : Run Unit := do
  unless abandoned do callHook options hooks n .run

/-- Note the time of node `n`, call its teardown hook and leave it. -/
def closeNode (n : NodeId) (started : Time.Reading) : Run Unit := do
  let ended ← Run.readClocks
  let clock := (Time.Clock.new.start started).stop ended
  modify (·.setElapsed n clock.elapsed)
  callHook options hooks n .teardown
  modify (·.leave n)
  modify (·.setStage n .done)

/-- Run node `n`, given how its children are run. The value of `children` says whether they were
abandoned. -/
def runAround (n : NodeId) (children : Run Bool) : Run Unit := do
  let started ← openNode options hooks n
  let abandoned ← children
  runSelf options hooks n abandoned
  closeNode options hooks n started

/-- Run the children of node `n` in order, until one of them leaves `n` failed. The value says
whether that happened. -/
def runChildren (n : NodeId) : Forest → Run Bool
  | .nil => pure false
  | .node child below beside => do
    modify (·.rewindFor child)
    runAround options hooks child (runChildren child below)
    let s ← get
    if s.tree.isFailed n then
      modify (·.log (.info ("'" ++ (s.tree.get child).name ++ "' failed below '"
        ++ (s.tree.get n).name ++ "', skipping the rest")))
      pure true
    else runChildren n beside

/-- Run node `n` and what is below it. -/
def runNode (n : NodeId) : Run Unit := do
  runAround options hooks n (runChildren options hooks n ((← get).tree.below n))

end

end SuiteTree
