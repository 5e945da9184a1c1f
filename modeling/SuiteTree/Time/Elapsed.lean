/-!
# Spans of time

Times are kept exactly, in nanoseconds, and become doubles only to be printed.
-/

namespace SuiteTree.Time

/-- A span of time, or a moment given by the span since some fixed origin. -/
structure Span where
  nanoseconds : Nat
  deriving Repr, DecidableEq, Inhabited

namespace Span

/-- Nanoseconds in a second. -/
def perSecond : Nat := 1000000000

def zero : Span := ⟨0⟩

/-- A span of whole seconds and a remainder of nanoseconds. -/
def ofParts (seconds nanoseconds : Nat) : Span :=
  ⟨seconds * perSecond + nanoseconds⟩

/-- The span from an earlier moment to this one, and zero when the clock went backwards. -/
def since (later earlier : Span) : Span :=
  ⟨later.nanoseconds - earlier.nanoseconds⟩

/-- The span in seconds: the whole seconds and the remainder are converted apart and then added. -/
def toSeconds (s : Span) : Float :=
  (s.nanoseconds / perSecond).toUInt64.toFloat
    + (s.nanoseconds % perSecond).toUInt64.toFloat / 1000000000

end Span

/-- Real, user and system time. -/
structure Elapsed where
  real : Span := .zero
  user : Span := .zero
  system : Span := .zero
  deriving Repr, DecidableEq, Inhabited

/-- No time at all. -/
def Elapsed.zero : Elapsed := {}

/-- What the clocks of the machine show: the real time since some origin, and the user and system
time that the process has used. -/
abbrev Reading := Elapsed

/-- The time from an earlier reading to this one, each clock on its own. -/
def Elapsed.since (later earlier : Reading) : Elapsed where
  real := later.real.since earlier.real
  user := later.user.since earlier.user
  system := later.system.since earlier.system

end SuiteTree.Time
