/-!
# Calendar dates

Seconds since the beginning of 1970 as a date and a time of day.
-/

namespace SuiteTree.Time

/-- Days from the first of March of the year 0 to the first of March of the year `n`. -/
def daysOfYears (n : Nat) : Nat :=
  365 * n + n / 4 - n / 100 + n / 400

/-- Days from the first of March of the year 0 to the beginning of 1970. -/
def epochDay : Nat := 719468

/-- Year, month and day of a day since the beginning of 1970. Years are counted from March, so that
a leap day comes last. -/
def dateOfDay (day : Nat) : Nat × Nat × Nat :=
  let days := day + epochDay
  let guess := days / 365
  let year := ((List.range 4).map (guess - ·)).find? (daysOfYears · ≤ days) |>.getD 0
  let rest := days - daysOfYears year
  let month := (5 * rest + 2) / 153
  let dayOfMonth := rest - (153 * month + 2) / 5 + 1
  if month < 10 then (year, month + 3, dayOfMonth) else (year + 1, month - 9, dayOfMonth)

/-- A number with at least two digits. -/
def twoDigits (n : Nat) : String :=
  if n < 10 then "0" ++ toString n else toString n

/-- A moment as a part of names: year, month, day, hours, minutes and seconds. -/
def stamp (seconds : Nat) : String :=
  let (year, month, day) := dateOfDay (seconds / 86400)
  let time := seconds % 86400
  let rest := [month, day, time / 3600, time / 60 % 60, time % 60]
  "-".intercalate (toString year :: rest.map twoDigits)

end SuiteTree.Time
