import MarkupFeed.Calendar
import MarkupFeed.Text.Number

/-!
# Points in time and their written forms

Points in time, to the nanosecond, and how they are written.

A leap second is the second after a second 59, and is counted as part of it: its nanoseconds start
at 10⁹. The calendar reaches from the year -262143 to the year 262142.
-/

namespace MarkupFeed

namespace Time

/-- The first second of the calendar. -/
def firstSecond : Int := -8334601228800

/-- The last second of the calendar. -/
def lastSecond : Int := 8210266876799

/-- The last year of the calendar. -/
def lastYear : Int := 262142

/-- Whether the calendar knows the second, and the nanoseconds belong to it. -/
def IsKnown (seconds : Int) (nanos : Nat) : Prop :=
  firstSecond ≤ seconds ∧ seconds ≤ lastSecond ∧
    (nanos < 1000000000 ∨ nanos < 2000000000 ∧ seconds % 60 = 59)

instance (seconds : Int) (nanos : Nat) : Decidable (IsKnown seconds nanos) := by
  unfold IsKnown; infer_instance

end Time

/-- A point in time. -/
structure Time where
  /-- Seconds from the beginning of 1970, without leap seconds. -/
  seconds : Int := 0
  /-- Nanoseconds into the second; from 10⁹ on, into the leap second after it. -/
  nanos : Nat := 0
  isKnown : Time.IsKnown seconds nanos := by decide
  deriving DecidableEq

namespace Time

/-- The point in time at a second, if there is one. -/
def ofUnix? (seconds : Int) (nanos : Nat) : Option Time :=
  if h : IsKnown seconds nanos then some ⟨seconds, nanos, h⟩ else none

/-- Earlier points in time come first. -/
def compare (a b : Time) : Ordering :=
  (Ord.compare a.seconds b.seconds).then (Ord.compare a.nanos b.nanos)

/-! ### Date and clock -/

/-- The number of the day. -/
def days (time : Time) : Int := time.seconds / 86400

/-- The date. -/
def date (time : Time) : Date := .ofDays time.days

/-- The seconds since midnight. -/
def ofDay (time : Time) : Nat := (time.seconds % 86400).toNat

def hour (time : Time) : Nat := time.ofDay / 3600

def minute (time : Time) : Nat := time.ofDay / 60 % 60

/-- The second, which is 60 during a leap second. -/
def second (time : Time) : Nat := time.ofDay % 60 + time.nanos / 1000000000

/-- The short name of the day of the week. -/
def weekdayName (time : Time) : String := Calendar.weekdayNames.getD (Calendar.weekday time.days) ""

/-- The short name of the month. -/
def monthName (time : Time) : String := Calendar.monthNames.getD (time.date.month - 1) ""

/-! ### Written forms -/

/-- A year with at least four digits, and with a sign if it is not one of the years 0 to 9999. -/
def yearText (year : Int) : String :=
  if 0 ≤ year ∧ year ≤ 9999 then Text.padded 4 year.toNat
  else (if year < 0 then "-" else "+") ++ Text.padded 4 year.natAbs

/-- The month, such as `2024-03`. -/
def monthText (time : Time) : String :=
  yearText time.date.year ++ "-" ++ Text.padded 2 time.date.month

/-- The date, such as `2024-03-01`. -/
def dateText (time : Time) : String := time.monthText ++ "-" ++ Text.padded 2 time.date.day

/-- Hour and minute, such as `10:00`. -/
def minuteText (time : Time) : String := Text.padded 2 time.hour ++ ":" ++ Text.padded 2 time.minute

/-- Hour, minute and second, such as `10:00:59`. -/
def secondText (time : Time) : String := time.minuteText ++ ":" ++ Text.padded 2 time.second

/-- The part of a second with a point in front, in three, six or nine digits, as many as are needed;
nothing for a whole second. -/
def fractionText (time : Time) : String :=
  let nanos := time.nanos % 1000000000
  if nanos = 0 then ""
  else if nanos % 1000000 = 0 then "." ++ Text.padded 3 (nanos / 1000000)
  else if nanos % 1000 = 0 then "." ++ Text.padded 6 (nanos / 1000)
  else "." ++ Text.padded 9 nanos

/-- Date and time to be exchanged, such as `2024-03-01T10:00:00Z`. -/
def stamp (time : Time) : String :=
  time.dateText ++ "T" ++ time.secondText ++ time.fractionText ++ "Z"

/-- Date and time to be read at a glance, such as `2024-03-01 10:00`. -/
def brief (time : Time) : String := time.dateText ++ " " ++ time.minuteText

/-- Date and time as mailboxes note them, such as `Fri Mar  1 10:00:00 2024`. -/
def delivery (time : Time) : String :=
  let day := toString time.date.day
  time.weekdayName ++ " " ++ time.monthName ++ " "
    ++ (if time.date.day < 10 then " " ++ day else day)
    ++ " " ++ time.secondText ++ " " ++ yearText time.date.year

/-- Whether the year has four digits, as the dates of mail headers need it. -/
def hasMailDate (time : Time) : Bool := 0 ≤ time.date.year && time.date.year ≤ 9999

/-- Date and time as mail headers give them, such as `Fri, 1 Mar 2024 10:00:00 +0000`. -/
def mailDate (time : Time) : String :=
  time.weekdayName ++ ", " ++ toString time.date.day ++ " " ++ time.monthName ++ " "
    ++ Text.padded 4 time.date.year.toNat ++ " " ++ time.secondText ++ " +0000"

end Time

end MarkupFeed
