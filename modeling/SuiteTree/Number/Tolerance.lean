import SuiteTree.Number.Binary

/-!
# Comparing doubles within a tolerance

`closeTo` scales its tolerance by the binary exponent of the larger operand. The exponent is first
estimated by the logarithm, as a double, and then corrected by one comparison with a power of two;
powers beyond the range of doubles are infinite or zero, and the correction sees them so.
-/

namespace SuiteTree.Number

/-- `2 ^ e` as a double: zero from `-1024` downwards and infinite from `1024` upwards. -/
def powerOfTwo (e : Int) : Float :=
  if e ≤ -1024 then 0
  else if 1024 ≤ e then Float.ofBits 0x7FF0000000000000
  else if e = -1023 then Float.ofBits 0x0008000000000000
  else Float.ofBits ((e + 1023).toNat.toUInt64 <<< 52)

/-- Half the distance from the whole number `k` to the double next to it on the side of minus
infinity, as the exponent of a power of two. -/
def halfGapBelow (k : Int) : Int :=
  let n := k.natAbs
  if 0 < k ∧ n = power 2 n.log2 then (n.log2 : Int) - 54 else (n.log2 : Int) - 53

/-- The floor of the base-2 logarithm of a magnitude, the logarithm itself being rounded to a double
first. Close below a power of two the rounding reaches the exponent of that power: the shortfall is
compared with the half gap times the natural logarithm of two. -/
def logFloor (b : Binary) : Int :=
  let k := b.top + 1
  let full := power 2 (b.m.log2 + 1)
  let shortfall := full - b.m
  let half := halfGapBelow k
  if k ≠ 0 ∧
      shortfall * power 10 30 * power 2 (-half) ≤ full * 693147180559945309417232121458 then k
  else b.top

/-- Correct an estimate of the binary exponent by one step. `2 ^ e` is infinite from `1024` upwards,
so the quotient by it is zero, and zero from `-1024` downwards, so the quotient by it is
infinite. -/
def correctExponent (b : Binary) (e : Int) : Int :=
  if 1024 ≤ e then e - 1
  else if e ≤ -1024 then e + 1
  else if b.reaches e then e + 1
  else if b.reaches (e - 1) then e
  else e - 1

/-- The binary exponent that scales a tolerance. Zero, the infinities and NaN have exponent zero. -/
def binaryExponent (x : Float) : Int :=
  match Reading.ofFloat x with
  | .finite _ b => if b.m = 0 then 0 else correctExponent b (logFloor b + 1)
  | _ => 0

/-- The two doubles differ by at most `epsilon`, scaled to the binary exponent of the operand with
the larger magnitude. -/
def closeTo (x y epsilon : Float) : Bool :=
  let larger := if x.abs > y.abs then x else y
  let delta := epsilon * powerOfTwo (binaryExponent larger)
  let difference := x - y
  decide (difference ≤ delta) && decide (difference ≥ -delta)

/-- The distance of the two doubles is greater than `tolerance`. -/
def farther (actual limit tolerance : Float) : Bool :=
  decide ((actual - limit).abs > tolerance)

end SuiteTree.Number
