/-!
# Binary readings of doubles

A finite double is a natural number times a power of two. Everything this library says about a
double beyond its arithmetic, such as its decimal text or its binary exponent, is computed exactly
from that reading.
-/

namespace SuiteTree.Number

/-- The power `base ^ e`, and one for exponents below zero. -/
def power (base : Nat) (e : Int) : Nat :=
  Nat.pow base e.toNat

/-- The finite magnitude `m * 2 ^ q`. -/
structure Binary where
  m : Nat
  q : Int
  /-- The gap to the double below is half the gap to the double above. -/
  narrowBelow : Bool
  deriving Repr, DecidableEq

namespace Binary

/-- The magnitude that the exponent and fraction bits of a finite double stand for. -/
def ofBits (bits : UInt64) : Binary :=
  let exponent := ((bits >>> 52) &&& 0x7FF).toNat
  let fraction := (bits &&& 0xFFFFFFFFFFFFF).toNat
  if exponent = 0 then ⟨fraction, -1074, false⟩
  else ⟨power 2 52 + fraction, (exponent : Int) - 1075, fraction == 0 && 1 < exponent⟩

/-- `2 ^ e ≤ m * 2 ^ q`, decided without division. -/
def reaches (b : Binary) (e : Int) : Bool :=
  decide (power 2 (e - b.q) ≤ b.m * power 2 (b.q - e))

/-- The exponent of the leading binary digit: `2 ^ top ≤ m * 2 ^ q < 2 ^ (top + 1)` when `m` is
not zero. -/
def top (b : Binary) : Int :=
  b.q + b.m.log2

end Binary

/-- What a double is: no number, an infinity, or a signed finite magnitude. -/
inductive Reading
  | notANumber
  | infinite (negative : Bool)
  | finite (negative : Bool) (magnitude : Binary)
  deriving Repr, DecidableEq

/-- Classify a double by its sign, exponent and fraction bits. -/
def Reading.ofFloat (x : Float) : Reading :=
  let bits := x.toBits
  let negative := (bits >>> 63) != 0
  if ((bits >>> 52) &&& 0x7FF) == 0x7FF then
    if bits &&& 0xFFFFFFFFFFFFF == 0 then .infinite negative else .notANumber
  else .finite negative (.ofBits bits)

end SuiteTree.Number
