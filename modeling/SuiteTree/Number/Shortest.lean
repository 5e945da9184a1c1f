import SuiteTree.Number.Binary

/-!
# The fewest decimal digits that identify a double

The real numbers that round to a given double form an interval around it. `shortest` searches the
decimal grids from coarse to fine and takes the first grid on which a neighbour of the value lies
in that interval, so no shorter decimal reads back. All comparisons are between naturals.
-/

namespace SuiteTree.Number

/-- The decimal `digits * 10 ^ exp`. -/
structure Decimal where
  digits : Nat
  exp : Int
  deriving Repr, DecidableEq

/-- Compare `a * 10 ^ i` with `n * 2 ^ j` exactly. -/
def compareScaled (a : Nat) (i : Int) (n : Nat) (j : Int) : Ordering :=
  compare (a * power 10 i * power 2 (-j)) (n * power 2 j * power 10 (-i))

namespace Binary

/-- The decimal lies among the reals that round to this magnitude. The ends of the interval belong
to it exactly when the significand is even. -/
def readsBack (b : Binary) (d : Decimal) : Bool :=
  let low := if b.narrowBelow then 4 * b.m - 1 else 4 * b.m - 2
  let high := 4 * b.m + 2
  let closed := b.m % 2 == 0
  let below := compareScaled d.digits d.exp low (b.q - 2)
  let above := compareScaled d.digits d.exp high (b.q - 2)
  (below == .gt || (closed && below == .eq)) && (above == .lt || (closed && above == .eq))

/-- The whole number of steps `10 ^ i` that fit into the magnitude. -/
def stepsBelow (b : Binary) (i : Int) : Nat :=
  (b.m * power 2 b.q * power 10 (-i)) / (power 10 i * power 2 (-b.q))

/-- The least `k` with `m * 2 ^ q < 10 ^ k`: an estimate from the binary length, then corrected. -/
def decimalScale (b : Binary) : Int :=
  let estimate := (b.top * 30103) / 100000
  let reached (k : Int) := compareScaled 1 k b.m b.q != .gt
  if reached (estimate + 1) then estimate + 2
  else if reached estimate then estimate + 1
  else estimate

/-- The neighbour of the magnitude on the grid `10 ^ i` that reads back: the nearer of two, the
upper one when both are equally near. -/
def hitOn (b : Binary) (i : Int) : Option Decimal :=
  let steps := b.stepsBelow i
  let lower : Decimal := ⟨steps, i⟩
  let upper : Decimal := ⟨steps + 1, i⟩
  match b.readsBack lower, b.readsBack upper with
  | true, true =>
    if compareScaled (2 * steps + 1) i (2 * b.m) b.q == .gt then some lower else some upper
  | true, false => some lower
  | false, true => some upper
  | false, false => none

/-- The exact value, written with as many digits as it needs. -/
def exactDecimal (b : Binary) : Decimal :=
  ⟨b.m * power 2 b.q * power 5 (-b.q), -((-b.q).toNat : Int)⟩

end Binary

namespace Decimal

/-- Move trailing zeros of the digits into the exponent, at most `limit` of them. -/
def strip (d : Decimal) : Nat → Decimal
  | 0 => d
  | limit + 1 =>
    if d.digits ≠ 0 ∧ d.digits % 10 = 0 then strip ⟨d.digits / 10, d.exp + 1⟩ limit else d

end Decimal

/-- The decimal with the fewest digits that reads back to a magnitude other than zero. Seventeen
digits identify every double, so the exact value is never needed in the end. -/
def Binary.shortest (b : Binary) : Decimal :=
  let scale := b.decimalScale
  let hit := (List.range 17).findSome? fun (n : Nat) => b.hitOn (scale - 1 - n)
  (hit.getD b.exactDecimal).strip 800

end SuiteTree.Number
