/-!
# Scanning text

A scanner reads a value from the front of a text and leaves the rest, or fails. Scanners of nested
values count down `fuel`, of which the length of the text gives enough.
-/

namespace SuiteTree

/-- A scanner of values of type `α`. -/
abbrev Scan (α : Type) := StateT (List Char) Option α

namespace Scan

variable {α : Type}

/-- No text is accepted. -/
def reject : Scan α := fun _ => none

/-- The next character, which stays; nothing at the end. -/
def peek : Scan (Option Char) := do pure (← get).head?

/-- The character after the next one. -/
def peekSecond : Scan (Option Char) := do pure ((← get).drop 1).head?

/-- Drop a number of characters. -/
def drop (n : Nat) : Scan Unit := modify (·.drop n)

/-- Read the longest front whose characters all satisfy `p`. -/
def takeWhile (p : Char → Bool) : Scan (List Char) := do
  let cs ← get
  set (cs.dropWhile p)
  pure (cs.takeWhile p)

/-- Drop the longest front whose characters all satisfy `p`. -/
def skipWhile (p : Char → Bool) : Scan Unit := modify (·.dropWhile p)

/-- Drop a text if it stands at the front, and say whether it did. -/
def skip? (text : String) : Scan Bool := do
  let cs ← get
  if text.toList.isPrefixOf cs then do set (cs.drop text.length); pure true
  else pure false

/-- Drop a text that must stand at the front. -/
def expect (text : String) : Scan Unit := do
  if ← skip? text then pure () else reject

/-- Apply a function that reads from the front of a text. -/
def ofFunction (f : List Char → Option (α × List Char)) : Scan α := f

/-- Read a whole text. -/
def whole (scan : Scan α) (cs : List Char) : Option α :=
  match scan.run cs with
  | some (a, []) => some a
  | _ => none

/-- Enough fuel for a text. -/
def fuelFor (cs : List Char) : Nat := 4 * cs.length + 8

end Scan

namespace Digits

/-- The value of a digit in a base up to sixteen. -/
def value? (base : Nat) (c : Char) : Option Nat :=
  let n :=
    if '0' ≤ c ∧ c ≤ '9' then c.toNat - '0'.toNat
    else if 'a' ≤ c ∧ c ≤ 'f' then c.toNat - 'a'.toNat + 10
    else if 'A' ≤ c ∧ c ≤ 'F' then c.toNat - 'A'.toNat + 10
    else base
  if n < base then some n else none

/-- The value of a row of digits, which must not be empty. -/
def toNat? (base : Nat) (cs : List Char) : Option Nat :=
  if cs.isEmpty then none
  else cs.foldlM (fun n c => (value? base c).map (base * n + ·)) 0

/-- The value of a row of digits after an optional plus sign. -/
def unsigned? (base : Nat) (cs : List Char) : Option Nat :=
  match cs with
  | '+' :: rest => toNat? base rest
  | _ => toNat? base cs

/-- The value of a row of digits after an optional sign. -/
def signed? (base : Nat) (cs : List Char) : Option Int :=
  match cs with
  | '-' :: rest => (toNat? base rest).map fun n => -(n : Int)
  | _ => (unsigned? base cs).map Int.ofNat

/-- The character with a code, if there is one. -/
def charOf? (n : Nat) : Option Char :=
  if n.isValidChar then some (Char.ofNat n) else none

/-- The character with a code that is given by hexadecimal digits. -/
def toChar? (cs : List Char) : Option Char :=
  (toNat? 16 cs).bind charOf?

/-- The double nearest to a decimal: the digits before and after the point, and the exponent. -/
def toFloat (negative : Bool) (whole fraction : List Char) (exponent : Int) : Float :=
  let digits := ((toNat? 10 (whole ++ fraction)).getD 0)
  let scale := exponent - fraction.length
  let top := scale + (Nat.toDigits 10 digits).length
  let x := if digits = 0 then 0
    else if 400 < top then 1 / 0
    else if top < -400 then 0
    else Float.ofScientific digits (scale < 0) scale.natAbs
  if negative then -x else x

end Digits

/-- A decimal as it is written: its sign, its digits and its exponent. -/
structure DecimalText where
  negative : Bool := false
  whole : List Char := []
  /-- The digits after the point, if there is a point. -/
  fraction : Option (List Char) := none
  exponent : Option Int := none
  deriving Repr, DecidableEq

namespace DecimalText

/-- Split a text at the marks of a decimal: a minus sign, a point and an exponent. Only digits may
stand between them, and the exponent must have some. -/
def ofChars? (cs : List Char) : Option DecimalText := do
  let (negative, cs) := match cs with
    | '-' :: rest => (true, rest)
    | _ => (false, cs)
  let whole := cs.takeWhile Char.isDigit
  let cs := cs.dropWhile Char.isDigit
  let (fraction, cs) := match cs with
    | '.' :: rest => (some (rest.takeWhile Char.isDigit), rest.dropWhile Char.isDigit)
    | _ => (none, cs)
  match cs with
  | [] => pure { negative, whole, fraction }
  | e :: rest =>
    if e = 'e' ∨ e = 'E' then
      let exponent ← match rest with
        | '+' :: digits => (Digits.toNat? 10 digits).map Int.ofNat
        | '-' :: digits => (Digits.toNat? 10 digits).map fun n => -(n : Int)
        | digits => (Digits.toNat? 10 digits).map Int.ofNat
      pure { negative, whole, fraction, exponent := some exponent }
    else none

/-- There is neither a point nor an exponent. -/
def isWhole (d : DecimalText) : Bool :=
  d.fraction.isNone && d.exponent.isNone

/-- The nearest double. -/
def toFloat (d : DecimalText) : Float :=
  Digits.toFloat d.negative d.whole (d.fraction.getD []) (d.exponent.getD 0)

/-- The whole number, if there is neither a point nor an exponent. -/
def toInt (d : DecimalText) : Int :=
  let n : Int := (Digits.toNat? 10 d.whole).getD 0
  if d.negative then -n else n

end DecimalText

end SuiteTree
