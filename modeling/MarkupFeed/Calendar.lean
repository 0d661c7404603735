/-!
# The Gregorian calendar

Dates of the Gregorian calendar, carried on in both directions, and the number of days from
1970-01-01.

Years are counted from March, so that the leap day is the last day of its year; then the months
before a date have `(153 * m + 2) / 5` days, and four hundred years have 146097.
-/

namespace MarkupFeed

/-- A date. Months and days count from one. -/
structure Date where
  year : Int
  month : Nat
  day : Nat
  deriving DecidableEq, Repr

namespace Calendar

/-- Whether the year has a 29 February. -/
def isLeapYear (year : Int) : Bool := year % 4 == 0 && (year % 100 != 0 || year % 400 == 0)

/-- The number of days of a month. -/
def daysInMonth (year : Int) (month : Nat) : Nat :=
  if month = 2 then (if isLeapYear year then 29 else 28)
  else if month ∈ [4, 6, 9, 11] then 30
  else 31

/-- The short names of the days of the week, Sunday first. -/
def weekdayNames : List String := ["Sun", "Mon", "Tue", "Wed", "Thu", "Fri", "Sat"]

/-- The short names of the months. -/
def monthNames : List String :=
  ["Jan", "Feb", "Mar", "Apr", "May", "Jun", "Jul", "Aug", "Sep", "Oct", "Nov", "Dec"]

/-- The day of the week of a day, given by its number: zero for a Sunday. -/
def weekday (days : Int) : Nat := ((days + 4) % 7).toNat

end Calendar

namespace Date

/-- Whether the date exists. -/
def isValid (date : Date) : Bool :=
  1 ≤ date.month && date.month ≤ 12 && 1 ≤ date.day
    && date.day ≤ Calendar.daysInMonth date.year date.month

/-- The number of days from 1970-01-01. -/
def toDays (date : Date) : Int :=
  let year := if date.month ≤ 2 then date.year - 1 else date.year
  let month := (date.month + 9) % 12
  365 * year + year / 4 - year / 100 + year / 400 + ((153 * month + 2) / 5 : Nat) + date.day
    - 719469

/-- The date of a day that is given by its number. -/
def ofDays (days : Int) : Date :=
  let shifted := days + 719468
  let era := shifted / 146097
  let ofEra := (shifted % 146097).toNat
  let yearOfEra := (ofEra - ofEra / 1460 + ofEra / 36524 - ofEra / 146096) / 365
  let ofYear := ofEra - (365 * yearOfEra + yearOfEra / 4 - yearOfEra / 100)
  let month := (5 * ofYear + 2) / 153
  let year := era * 400 + yearOfEra
  { year := if month < 10 then year else year + 1
    month := if month < 10 then month + 3 else month - 9
    day := ofYear - (153 * month + 2) / 5 + 1 }

example : (Date.mk 2024 2 29).toDays = 19782 := by decide

example : ofDays (-719529) = ⟨-1, 12, 31⟩ := by decide

end Date

end MarkupFeed
