import SuiteTree.Settings.Scan

/-!
# Dates and times in TOML

A date, a time, or both with an optional offset; a date alone may be marked as one of
universal time.
A moment is written back in one form: a capital `T` between date and time, and no trailing zeros in
the fraction of a second.
-/

namespace SuiteTree.Toml

/-- A number of a fixed count of digits. -/
def fixedDigits (count : Nat) : Scan Nat := do
  let cs ← get
  set (cs.drop count)
  match Digits.toNat? 10 (cs.take count) with
  | some n => if cs.length < count then Scan.reject else pure n
  | none => Scan.reject

/-- A number with at least a count of digits. -/
def padded (count n : Nat) : String :=
  let cs := Nat.toDigits 10 n
  String.ofList (List.replicate (count - cs.length) '0' ++ cs)

/-- A day. -/
def date : Scan String := do
  let year ← fixedDigits 4
  Scan.expect "-"
  let month ← fixedDigits 2
  Scan.expect "-"
  let day ← fixedDigits 2
  if month < 1 ∨ 12 < month ∨ day < 1 ∨ 31 < day then Scan.reject
  else pure (padded 4 year ++ "-" ++ padded 2 month ++ "-" ++ padded 2 day)

/-- The fraction of a second after its point, nine digits of which count. -/
def fraction : Scan String := do
  let cs ← Scan.takeWhile Char.isDigit
  if cs.isEmpty then Scan.reject
  else
    let kept := ((cs.take 9).reverse.dropWhile (· == '0')).reverse
    pure (if kept.isEmpty then "" else "." ++ String.ofList kept)

/-- A time of day. -/
def time : Scan String := do
  let hour ← fixedDigits 2
  Scan.expect ":"
  let minute ← fixedDigits 2
  Scan.expect ":"
  let second ← fixedDigits 2
  let part ← if ← Scan.skip? "." then fraction else pure ""
  if 24 < hour ∨ 59 < minute ∨ 59 < second then Scan.reject
  else pure (padded 2 hour ++ ":" ++ padded 2 minute ++ ":" ++ padded 2 second ++ part)

/-- An offset from universal time, if there is one. -/
def offset : Scan String := do
  match ← Scan.peek with
  | none => pure ""
  | some c =>
    Scan.drop 1
    if c = 'Z' ∨ c = 'z' then pure "Z"
    else if c = '+' ∨ c = '-' then do
      let hours ← fixedDigits 2
      Scan.expect ":"
      let minutes ← fixedDigits 2
      let sign := if c = '-' ∧ hours ≠ 0 then "-" else "+"
      pure (sign ++ padded 2 hours ++ ":" ++ padded 2 minutes)
    else Scan.reject

/-- A moment, in its one form. -/
def moment : Scan String := do
  if (← get)[2]? = some ':' then time
  else
    let day ← date
    match ← Scan.peek with
    | none => pure day
    | some c =>
      if c = 'T' ∨ c = 't' ∨ c = ' ' then do
        Scan.drop 1
        let hour ← time
        pure (day ++ "T" ++ hour ++ (← offset))
      else if c = 'Z' ∨ c = 'z' then do pure (day ++ (← offset))
      else Scan.reject

end SuiteTree.Toml
