import SuiteTree.Settings.Document
import SuiteTree.Settings.Scan

/-!
# Numbers in JSON

Whole numbers of 64 bits are read exactly. All others become a significand of at most 64 bits and a
power of ten, which are put together by a single multiplication or division of doubles. The result
may therefore differ from the nearest double in its last bit.
-/

namespace SuiteTree.Json

/-- A significand and a power of ten. -/
structure Scaled where
  significand : Nat := 0
  exponent : Int := 0
  deriving Repr, DecidableEq

namespace Scaled

/-- Append a digit, if the significand still has 64 bits then. -/
def push? (s : Scaled) (c : Char) : Option Nat :=
  let n := 10 * s.significand + (c.toNat - '0'.toNat)
  if n ≤ 18446744073709551615 then some n else none

/-- Append digits before the point. From the first one that does not fit on, they only count. -/
def pushWhole (s : Scaled) : List Char → Scaled
  | [] => s
  | c :: rest =>
    match s.push? c with
    | some n => ({ s with significand := n } : Scaled).pushWhole rest
    | none => { s with exponent := s.exponent + (rest.length + 1) }

/-- Append digits after the point, as far as they fit. -/
def pushFraction (s : Scaled) : List Char → Scaled
  | [] => s
  | c :: rest =>
    match s.push? c with
    | some n => (⟨n, s.exponent - 1⟩ : Scaled).pushFraction rest
    | none => s

/-- The power of ten that is nearest to `10 ^ n`. -/
def powerOfTen (n : Nat) : Float :=
  Float.ofScientific 1 false n

/-- Multiply a double by a power of ten, unless the result is too large. Powers below the smallest
double are divided out in several steps. -/
def scale (x : Float) (exponent : Int) : (fuel : Nat) → Option Float
  | 0 => some x
  | fuel + 1 =>
    if exponent.natAbs ≤ 308 then
      if 0 ≤ exponent then
        let y := x * powerOfTen exponent.natAbs
        if y.isInf then none else some y
      else some (x / powerOfTen exponent.natAbs)
    else if x == 0 then some x
    else if 0 ≤ exponent then none
    else scale (x / powerOfTen 308) (exponent + 308) fuel

/-- The double that stands for a significand and a power of ten. Two divisions bring every
significand down to zero. -/
def toFloat? (s : Scaled) : Option Float :=
  scale (Float.ofNat s.significand) s.exponent 4

end Scaled

/-- The value of a number. The negative zero is a double. -/
def number? (cs : List Char) : Option Document := do
  let d ← DecimalText.ofChars? cs
  if d.whole.isEmpty || (d.whole.head? == some '0' && 1 < d.whole.length)
      || d.fraction == some [] then
    none
  else if d.isWhole && Document.fitsInt d.toInt && !(d.negative && d.toInt == 0) then
    some (.int d.toInt)
  else
    let digits := (({} : Scaled).pushWhole d.whole).pushFraction (d.fraction.getD [])
    let x ← ({ digits with exponent := digits.exponent + d.exponent.getD 0 } : Scaled).toFloat?
    some (.number (if d.negative then -x else x))

end SuiteTree.Json
