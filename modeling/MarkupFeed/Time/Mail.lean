import MarkupFeed.Text.Blank
import MarkupFeed.Time

/-!
# Reading the dates of mail headers

Reads the dates of mail headers: `Fri, 1 Mar 2024 10:00:00 +0000`.

The day of the week may be missing, and so may the seconds. White space is required between the
parts and allowed around the colon between hour and minute. Years of two and three digits are of the
old style. A zone is an offset or one of the old names. Comments in parentheses may follow.
-/

namespace MarkupFeed.Time.Mail

/-- A reader takes something from the beginning of a text. -/
abbrev Reader (α : Type) := List Char → Option (α × List Char)

/-- Removes white space in front. -/
def skip (text : List Char) : List Char := text.dropWhile Text.isBlank

/-- Removes white space in front, of which there has to be some. -/
def space : List Char → Option (List Char)
  | [] => none
  | c :: rest => if Text.isBlank c then some (skip rest) else none

/-- Removes a character in front. -/
def char (expected : Char) : List Char → Option (List Char)
  | [] => none
  | c :: rest => if c = expected then some rest else none

/-- Takes at most so many digits, but at least a number of them. -/
def number (least most : Nat) : Reader Nat := fun text =>
  let digits := (text.take most).takeWhile Char.isDigit
  if least ≤ digits.length then some (Text.digitsValue digits, text.drop digits.length) else none

/-- Takes all digits, of which there have to be a number. -/
def longNumber (least : Nat) : Reader (Nat × Nat) := fun text =>
  let digits := text.takeWhile Char.isDigit
  if least ≤ digits.length then
    some ((Text.digitsValue digits, digits.length), text.dropWhile Char.isDigit)
  else none

/-- Takes a name of three letters, whatever their case, and gives its place in the list. -/
def name (names : List String) : Reader Nat := fun text =>
  (names.findIdx? fun name => name.toList.map Char.toLower == (text.take 3).map Char.toLower).map
    fun index => (index, text.drop 3)

/-- Takes the day of the week, if there is one. A comma has to follow it. -/
def weekday : Reader (Option Nat) := fun text =>
  match name Calendar.weekdayNames text with
  | some (index, rest) => (char ',' rest).map fun rest => (some index, rest)
  | none => some (none, text)

/-- The year that is meant by a number of so many digits. -/
def fullYear (number digits : Nat) : Nat :=
  if digits = 2 then (if number < 50 then number + 2000 else number + 1900)
  else if digits = 3 then number + 1900
  else number

/-- Takes a year. -/
def year : Reader Nat := fun text =>
  (longNumber 2 text).map fun ((number, digits), rest) => (fullYear number digits, rest)

/-- Takes the second, if there is one. -/
def second : Reader Nat := fun text =>
  match char ':' (skip text) with
  | some rest => number 2 2 rest
  | none => some (0, text)

/-- The offset of a named zone, in hours. Zones of one letter do not tell theirs and count as
zero. -/
def zoneHours? (name : List Char) : Option Int :=
  let zone := String.ofList (name.map Char.toLower)
  if zone ∈ ["gmt", "ut", "z"] then some 0
  else if zone = "edt" then some (-4)
  else if zone = "est" ∨ zone = "cdt" then some (-5)
  else if zone = "cst" ∨ zone = "mdt" then some (-6)
  else if zone = "mst" ∨ zone = "pdt" then some (-7)
  else if zone = "pst" then some (-8)
  else if name.length = 1 ∧ zone ≠ "j" then some 0
  else none

/-- Takes four digits, and gives the seconds of so many hours and minutes. -/
def hoursAndMinutes : Reader Nat := fun text => do
  let (hours, rest) ← number 2 2 text
  let (minutes, rest) ← number 2 2 rest
  if minutes < 60 then some (hours * 3600 + minutes * 60, rest) else none

/-- Takes a zone, and gives its offset in seconds. -/
def zone : Reader Int := fun text =>
  match text with
  | '+' :: rest => (hoursAndMinutes rest).map fun (offset, rest) => ((offset : Int), rest)
  | '-' :: rest => (hoursAndMinutes rest).map fun (offset, rest) => (-(offset : Int), rest)
  | _ =>
    let name := text.takeWhile Char.isAlpha
    if name = [] then none
    else (zoneHours? name).map fun hours => (hours * 3600, text.dropWhile Char.isAlpha)

/-- Where a text of comments stands. -/
inductive Comments where
  /-- Outside; whether a comment has to follow. -/
  | outside (required : Bool)
  /-- Inside so many nested comments, and one more. -/
  | inside (depth : Nat)
  /-- After a backslash inside. -/
  | escaped (depth : Nat)

/-- Whether nothing but comments follows, each with white space in front. -/
def Comments.accept : Comments → List Char → Bool
  | .outside required, [] => !required
  | .outside _, c :: rest =>
    if c = '(' then (Comments.inside 0).accept rest
    else Text.isBlank c && (Comments.outside true).accept rest
  | .inside _, [] | .escaped _, [] => false
  | .escaped depth, _ :: rest => (Comments.inside depth).accept rest
  | .inside depth, c :: rest =>
    if c = '\\' then (Comments.escaped depth).accept rest
    else if c = '(' then (Comments.inside (depth + 1)).accept rest
    else if c = ')' then
      match depth with
      | 0 => (Comments.outside false).accept rest
      | depth + 1 => (Comments.inside depth).accept rest
    else (Comments.inside depth).accept rest

/-- The parts of a date, as they are written. -/
structure Parts where
  weekday : Option Nat
  date : Date
  hour : Nat
  minute : Nat
  second : Nat
  /-- How far the clock is ahead, in seconds. -/
  offset : Int
  deriving DecidableEq, Repr

/-- The point in time of a date whose parts fit together. -/
def Parts.time? (parts : Parts) : Option Time :=
  let days := parts.date.toDays
  if parts.date.isValid && parts.date.year ≤ lastYear && parts.hour < 24 && parts.minute < 60
      && parts.second ≤ 60 && parts.offset.natAbs < 86400
      && parts.weekday.all (· == Calendar.weekday days) then
    let leap := parts.second = 60
    Time.ofUnix?
      (days * 86400 + parts.hour * 3600 + parts.minute * 60 + (if leap then 59 else parts.second)
        - parts.offset)
      (if leap then 1000000000 else 0)
  else none

/-- Takes a date apart. -/
def parts? (text : List Char) : Option Parts := do
  let (weekday, rest) ← weekday (skip text)
  let (day, rest) ← number 1 2 (skip rest)
  let (month, rest) ← name Calendar.monthNames (← space rest)
  let (year, rest) ← year (← space rest)
  let (hour, rest) ← number 2 2 (← space rest)
  let (minute, rest) ← number 2 2 (skip (← char ':' (skip rest)))
  let (second, rest) ← second rest
  let (offset, rest) ← zone (← space rest)
  if (Comments.outside false).accept rest then
    some ⟨weekday, ⟨year, month + 1, day⟩, hour, minute, second, offset⟩
  else none

/-- The point in time a date stands for. -/
def read? (text : String) : Option Time := (parts? text.toList).bind Parts.time?

example : (read? "fri,1 mar 24 10 : 00 EST (so (it) says)").map (·.seconds) = some 1709305200 := by
  decide +kernel

end MarkupFeed.Time.Mail
