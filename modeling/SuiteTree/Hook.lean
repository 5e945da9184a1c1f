import SuiteTree.Options
import SuiteTree.Tree.Outline
import SuiteTree.Value

/-!
# Hooks as programs

A hook is a program: a tree of requests to the run that calls it, each with what to do for every
reply. The program itself has no access to the state of the run, so whatever a hook observes or
changes is visible as a request. A program may stop at any point, and every program ends.
-/

namespace SuiteTree

/-- What a hook may ask of the run. -/
inductive Request
  /-- Report a failure of the running node. -/
  | fail (failure : Failure)
  /-- Has a failure been reported to the running node or below it? -/
  | isFailed
  /-- Has no failure been reported to the running node itself? -/
  | isPassing
  /-- How the run deals with failures, and whether reference data are to be renewed. -/
  | options
  /-- The tree as it is now. -/
  | tree
  /-- Override an attribute. -/
  | assign (key value : String)
  /-- The value of an attribute. -/
  | lookup (key : String)
  /-- Drop all overrides. -/
  | resetAttributes
  /-- The index of the next random stream. -/
  | drawStream
  /-- Let the next stream be the first one again. -/
  | rewindStreams
  /-- A file in the data directory of the running node. -/
  | dataFile (name : String)
  /-- A file in the temporary directory of the running node, which is made if it is missing. -/
  | tempFile (name : String)
  | readFile (path : Path)
  | writeFile (path : Path) (text : String)
  /-- What was remembered under a key, by any hook. -/
  | remembered (key : String)
  | remember (key : String) (value : Value)
  | log (record : Record)
  /-- Leave a note among the events of the run. -/
  | note (text : String)
  /-- Complain about an error and end the process. -/
  | exit (cause : Error)

namespace Request

/-- What the run replies to a request. -/
@[reducible] def Reply : Request → Type
  | fail _ => Unit
  | isFailed => Bool
  | isPassing => Bool
  | options => Policy
  | tree => Sight
  | assign _ _ => Unit
  | lookup _ => Option String
  | resetAttributes => Unit
  | drawStream => Nat
  | rewindStreams => Unit
  | dataFile _ => Except Error Path
  | tempFile _ => Except Error Path
  | readFile _ => Except OsError String
  | writeFile _ _ => Except OsError Unit
  | remembered _ => Option Value
  | remember _ _ => Unit
  | log _ => Unit
  | note _ => Unit
  | exit _ => Unit

end Request

/-- A program that ends with a value of type `α`. -/
inductive Program (α : Type) : Type
  | pure (a : α)
  | ask (request : Request) (next : request.Reply → Program α)

namespace Program

variable {α β : Type}

/-- Go on with a second program that depends on the value of the first. -/
def bind : Program α → (α → Program β) → Program β
  | pure a, f => f a
  | ask request next, f => ask request fun reply => (next reply).bind f

instance : Monad Program where
  pure := pure
  bind := bind

@[simp] theorem ask_bind (request : Request) (next : request.Reply → Program α)
    (f : α → Program β) :
    (ask request next).bind f = ask request fun reply => (next reply).bind f := rfl

/-- Make one request and end with the reply. -/
def request (r : Request) : Program r.Reply :=
  ask r pure

/-- Do nothing. -/
def skip : Program Unit :=
  pure ()

/-- Carry out steps in order until one of them says to stop. A step says so by the value `false`. -/
def steps : List (Program Bool) → Program Unit
  | [] => skip
  | p :: rest => p.bind fun goOn => if goOn then steps rest else skip

/-- Carry out a program as a step that never says to stop. -/
def andGoOn (p : Program α) : Program Bool :=
  p.bind fun _ => pure true

/-- The file in the data directory of the running node. A node without one is a mistake in the
suite itself and ends the process. -/
def dataFileOrExit (name : String) : Program Path :=
  ask (.dataFile name) fun
    | .ok path => pure path
    | .error cause => ask (.exit cause) fun _ => pure .empty

end Program

/-- The three hooks of a node, in the order of their calls. -/
structure Hooks where
  setup : Program Unit := .skip
  run : Program Unit := .skip
  teardown : Program Unit := .skip

/-- The hooks of a node that does nothing of its own. -/
def Hooks.idle : Hooks := {}

instance : Inhabited Hooks := ⟨.idle⟩

/-- The three moments at which a run calls a hook. -/
inductive Phase
  | setup
  | run
  | teardown
  deriving Repr, DecidableEq

namespace Phase

def name : Phase → String
  | setup => "setup"
  | run => "run"
  | teardown => "teardown"

/-- The stage in which the hook is called. -/
def stage : Phase → Stage
  | setup => .settingUp
  | run => .runningSelf
  | teardown => .tearingDown

end Phase

/-- The hook of a phase. -/
def Hooks.at (hooks : Hooks) : Phase → Program Unit
  | .setup => hooks.setup
  | .run => hooks.run
  | .teardown => hooks.teardown

end SuiteTree
