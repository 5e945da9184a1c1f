import SuiteTree.Number.Shortest

/-!
# Decimal text of doubles

Three texts are written by this library: values in failure records, which show a point or an
exponent in every number; values in log messages, which never have an exponent; and times, which
have three places.
-/

namespace SuiteTree.Number

/-- How a shortest decimal is laid out. -/
structure Layout where
  /-- The exponents of the leading digit for which the number is written positionally. -/
  positional : Int → Bool
  /-- A whole number keeps a point and a zero. -/
  pointZero : Bool

/-- Values in failure records: positional from `0.0001` up to below `10 ^ 16`, and whole numbers
end in `.0`. -/
def Layout.record : Layout where
  positional e := decide (-4 ≤ e ∧ e < 16)
  pointZero := true

/-- Values in log messages: always positional, and whole numbers have no point. -/
def Layout.message : Layout where
  positional _ := true
  pointZero := false

/-- The decimal digits of a natural number. -/
def digitChars (n : Nat) : List Char :=
  Nat.toDigits 10 n

/-- Write the digits of a decimal without an exponent. -/
def Layout.writePositional (layout : Layout) (d : Decimal) : List Char :=
  let cs := digitChars d.digits
  if 0 ≤ d.exp then
    cs ++ List.replicate d.exp.toNat '0' ++ (if layout.pointZero then ['.', '0'] else [])
  else
    let places := (-d.exp).toNat
    if places < cs.length then
      cs.take (cs.length - places) ++ '.' :: cs.drop (cs.length - places)
    else
      '0' :: '.' :: List.replicate (places - cs.length) '0' ++ cs

/-- Write one digit, the remaining digits after a point if there are any, and the exponent. -/
def writeScientific (d : Decimal) : List Char :=
  let cs := digitChars d.digits
  let exponent := d.exp + cs.length - 1
  cs.take 1 ++ (if 1 < cs.length then '.' :: cs.drop 1 else []) ++ 'e' :: (toString exponent).toList

/-- The text of a double under a layout. -/
def Layout.render (layout : Layout) (x : Float) : String :=
  match Reading.ofFloat x with
  | .notANumber => "NaN"
  | .infinite negative => if negative then "-inf" else "inf"
  | .finite negative b =>
    let body :=
      if b.m = 0 then layout.writePositional ⟨0, 0⟩
      else
        let d := b.shortest
        if layout.positional (d.exp + (digitChars d.digits).length - 1) then
          layout.writePositional d
        else writeScientific d
    String.ofList (if negative then '-' :: body else body)

/-- The quotient rounded to the nearest whole number, a half to the even neighbour. -/
def roundHalfEven (num den : Nat) : Nat :=
  let quotient := num / den
  match compare (2 * (num % den)) den with
  | .lt => quotient
  | .gt => quotient + 1
  | .eq => if quotient % 2 = 0 then quotient else quotient + 1

/-- The text of a whole number of units `10 ^ (-places)`. -/
def writePlaces (places units : Nat) : List Char :=
  let cs := digitChars units
  let padded := List.replicate (places + 1 - cs.length) '0' ++ cs
  padded.take (padded.length - places) ++ '.' :: padded.drop (padded.length - places)

/-- The exact value of a double rounded to a fixed number of places. -/
def fixed (places : Nat) (x : Float) : String :=
  match Reading.ofFloat x with
  | .notANumber => "NaN"
  | .infinite negative => if negative then "-inf" else "inf"
  | .finite negative b =>
    let units := roundHalfEven (b.m * power 2 b.q * power 10 places) (power 2 (-b.q))
    let body := writePlaces places units
    String.ofList (if negative then '-' :: body else body)

end SuiteTree.Number
