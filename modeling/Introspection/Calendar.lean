/-!
# The calendar

Dates, and the date of a day counted from the start of 1970. Counting starts anew on the first of
March of the year zero, so that a leap day is the last day of its year, and months have their
lengths in a fixed pattern.

## Main definitions

* `Calendar.daysIn` — the count of days in a month
* `Calendar.Date`, `Calendar.Date.text`
* `Calendar.Date.ofDay` — the date of a day counted from the start of 1970
* `Calendar.Date.number` — the days counted from the first of January of the year one
* `Calendar.stamp` — a moment, to the millisecond
-/

namespace Introspection.Calendar

/-- A number in at least `width` decimal digits. -/
def padded (width n : Nat) : String :=
  let digits := Nat.toDigits 10 n
  String.ofList (List.replicate (width - digits.length) '0' ++ digits)

/-- Whether a year has a leap day. -/
def isLeapYear (year : Nat) : Bool :=
  year % 4 == 0 && (year % 100 != 0 || year % 400 == 0)

/-- The count of days in a month. -/
def daysIn (year month : Nat) : Nat :=
  if month == 2 then if isLeapYear year then 29 else 28
  else if [4, 6, 9, 11].contains month then 30 else 31

/-- A day of the calendar. -/
structure Date where
  year : Nat
  month : Nat
  day : Nat
deriving DecidableEq, Inhabited, Repr

namespace Date

/-- A date as year, month and day. -/
def text (date : Date) : String :=
  padded 4 date.year ++ "-" ++ padded 2 date.month ++ "-" ++ padded 2 date.day

/-- How many days the start of 1970 is after the first of March of the year zero. -/
def daysBefore1970 : Nat := 719468

/-- The date of a day counted from the start of 1970. -/
def ofDay (number : Nat) : Date :=
  let days := number + daysBefore1970
  let cycle := days / 146097
  let dayOfCycle := days % 146097
  let yearOfCycle := (dayOfCycle - dayOfCycle / 1460 + dayOfCycle / 36524 - dayOfCycle / 146096) / 365
  let dayOfYear := dayOfCycle - (365 * yearOfCycle + yearOfCycle / 4 - yearOfCycle / 100)
  let monthFromMarch := (5 * dayOfYear + 2) / 153
  let month := if monthFromMarch < 10 then monthFromMarch + 3 else monthFromMarch - 9
  { year := cycle * 400 + yearOfCycle + (if month ≤ 2 then 1 else 0)
    month := month
    day := dayOfYear - (153 * monthFromMarch + 2) / 5 + 1 }

example : ofDay 0 = ⟨1970, 1, 1⟩ ∧ ofDay 11016 = ⟨2000, 2, 29⟩ ∧ ofDay 19723 = ⟨2024, 1, 1⟩ := by
  decide

-- Sums start from the numeral, also where algebra is in scope.
attribute [local instance (high)] Zero.ofOfNat0

/-- The number of a date, the first of January of the year one being number one. -/
def number (date : Date) : Nat :=
  let past := date.year - 1
  365 * past + past / 4 - past / 100 + past / 400 +
    ((List.range (date.month - 1)).map fun month => daysIn date.year (month + 1)).sum + date.day

example : number ⟨1, 1, 1⟩ = 1 ∧ number ⟨1970, 1, 1⟩ = 719163 ∧ number ⟨2024, 3, 1⟩ = 738946 := by
  decide

end Date

/-- A moment, counted in milliseconds from the start of 1970, as a date and a time of day. -/
def stamp (milliseconds : Nat) : String :=
  let seconds := milliseconds / 1000
  (Date.ofDay (seconds / 86400)).text ++ " " ++ padded 2 (seconds / 3600 % 24) ++ ":" ++
    padded 2 (seconds / 60 % 60) ++ ":" ++ padded 2 (seconds % 60) ++ "," ++
    padded 3 (milliseconds % 1000)

end Introspection.Calendar
