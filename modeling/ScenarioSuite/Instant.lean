/-!
# Points in time

A point in time is a count of milliseconds since the beginning of the year 1970. It is written as a
date and a time of day in the proleptic Gregorian calendar.

## Main definitions

* `Instant`, `Instant.text`.
* `Date`, `Date.ofDay`: the date of a day.
-/

namespace ScenarioSuite

/-- A date of the proleptic Gregorian calendar. -/
structure Date where
  year : Int
  month : Nat
  day : Nat
deriving Repr, DecidableEq

namespace Date

/-- The date of a day, counted from the first of January 1970. Years are taken to begin in March,
so that the leap day is their last, and to come in cycles of 400. -/
def ofDay (n : Int) : Date :=
  let days := n + 719468
  let cycle := days.fdiv 146097
  let dayOfCycle := (days.fmod 146097).toNat
  let yearOfCycle :=
    (dayOfCycle - dayOfCycle / 1460 + dayOfCycle / 36524 - dayOfCycle / 146096) / 365
  let dayOfYear := dayOfCycle - (365 * yearOfCycle + yearOfCycle / 4 - yearOfCycle / 100)
  let monthFromMarch := (5 * dayOfYear + 2) / 153
  let month := if monthFromMarch < 10 then monthFromMarch + 3 else monthFromMarch - 9
  { year := yearOfCycle + cycle * 400 + (if month ≤ 2 then 1 else 0)
    month
    day := dayOfYear - (153 * monthFromMarch + 2) / 5 + 1 }

end Date

/-- A number with zeros in front up to a width. -/
def padded (width n : Nat) : String :=
  let digits := toString n
  String.ofList (List.replicate (width - digits.length) '0') ++ digits

/-- A year in four digits; beyond those a sign tells that there may be more. -/
def yearText (year : Int) : String :=
  if 0 ≤ year ∧ year ≤ 9999 then padded 4 year.toNat
  else (if year < 0 then "-" else "+") ++ padded 4 year.natAbs

/-- A point in time. -/
structure Instant where
  milliseconds : Int
deriving Repr, DecidableEq

namespace Instant

/-- The point where the count begins. -/
def zero : Instant := ⟨0⟩

/-- The point so many milliseconds later. -/
def after (i : Instant) (milliseconds : Int) : Instant :=
  ⟨i.milliseconds + milliseconds⟩

/-- The number of milliseconds since another point. -/
def since (i start : Instant) : Int :=
  i.milliseconds - start.milliseconds

/-- The date and the time of day. Milliseconds are left out when there are none. -/
def text (i : Instant) : String :=
  let date := Date.ofDay (i.milliseconds.fdiv 86400000)
  let ms := (i.milliseconds.fmod 86400000).toNat
  let seconds := ms / 1000
  yearText date.year ++ "-" ++ padded 2 date.month ++ "-" ++ padded 2 date.day ++ "T" ++
    padded 2 (seconds / 3600) ++ ":" ++ padded 2 (seconds / 60 % 60) ++ ":" ++
    padded 2 (seconds % 60) ++ (if ms % 1000 = 0 then "" else "." ++ padded 3 (ms % 1000)) ++ "Z"

end Instant

end ScenarioSuite
