import SuiteTree.Time.Elapsed

/-!
# A clock that is started and stopped

The readings of the machine's clocks are arguments, so a measurement is a function of them.
-/

namespace SuiteTree.Time

/-- A clock, running if it holds the reading at which it was started. -/
structure Clock where
  started : Option Reading := none
  elapsed : Elapsed := .zero
  deriving Repr, DecidableEq

namespace Clock

/-- A clock that has never run. -/
def new : Clock := {}

/-- Start, or start again. -/
def start (clock : Clock) (now : Reading) : Clock :=
  { clock with started := some now }

/-- Stop. A clock that is not running keeps the time of its last measurement. -/
def stop (clock : Clock) (now : Reading) : Clock :=
  match clock.started with
  | some earlier => { started := none, elapsed := now.since earlier }
  | none => clock

end Clock

/-- The readings that a run will obtain, in the order in which it asks for them. Once they are used
up the last one stands for all that follow. -/
structure Supply where
  readings : List Reading := []
  /-- How many readings have been asked for. -/
  taken : Nat := 0
  deriving Repr, DecidableEq

namespace Supply

/-- The reading obtained by the request numbered `n`, the first one being `0`. -/
def reading (supply : Supply) (n : Nat) : Reading :=
  supply.readings[n]?.getD (supply.readings.getLast?.getD .zero)

/-- Obtain the next reading. -/
def next (supply : Supply) : Reading × Supply :=
  (supply.reading supply.taken, { supply with taken := supply.taken + 1 })

end Supply

end SuiteTree.Time
