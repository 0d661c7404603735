import MarkupFeed.Calendar
import MarkupFeed.Text.Blank
import MarkupFeed.Toml

/-!
# TOML values written in one word

The values of TOML documents that are written in one word: numbers, truth values, dates and times.

Digits may be grouped by underscores. Dates and times become texts in the form they are to be
exchanged in: with `T` between date and time, and no zeros at the end of a fraction.
-/

namespace MarkupFeed.Toml.Scalar

/-! ### Numbers -/

/-- Removes single underscores between digits of a class, of which there is at least one. -/
def ungrouped? (isDigit : Char → Bool) (text : List Char) : Option (List Char) :=
  let groups := Text.splitChars (· == '_') text
  if groups.all fun group => !group.isEmpty && group.all isDigit then some groups.flatten else none

/-- The value of digits in a base. -/
def valueIn (base : Nat) (digits : List Char) : Nat :=
  digits.foldl (fun value c =>
    value * base + (if c.isDigit then c.toNat - '0'.toNat else c.toLower.toNat - 'a'.toNat + 10)) 0

/-- The digits of a whole number without superfluous zeros in front. -/
def wholeDigits? (text : List Char) : Option (List Char) :=
  (ungrouped? Char.isDigit text).filter fun digits => digits.length == 1 || digits.head? != some '0'

/-- Takes a sign in front: whether it is a minus. -/
def sign (text : List Char) : Bool × List Char :=
  match text with
  | '-' :: rest => (true, rest)
  | '+' :: rest => (false, rest)
  | _ => (false, text)

/-- A whole number, if 64 bits hold it. -/
def word? (value : Int) : Option Toml :=
  if Int64.minValue.toInt ≤ value ∧ value ≤ Int64.maxValue.toInt then some (.integer value)
  else none

/-- Reads a whole number. -/
def integer? (text : List Char) : Option Toml :=
  let inBase (base : Nat) (isDigit : Char → Bool) (digits : List Char) : Option Toml :=
    (ungrouped? isDigit digits).bind fun digits => word? (valueIn base digits)
  match text with
  | '0' :: 'x' :: digits =>
    inBase 16 (fun c => c.isDigit || 'a' ≤ c.toLower && c.toLower ≤ 'f') digits
  | '0' :: 'o' :: digits => inBase 8 (fun c => '0' ≤ c && c ≤ '7') digits
  | '0' :: 'b' :: digits => inBase 2 (fun c => c == '0' || c == '1') digits
  | _ =>
    let (negative, digits) := sign text
    (wholeDigits? digits).bind fun digits =>
      let value : Int := valueIn 10 digits
      word? (if negative then -value else value)

/-- Reads the part of a number after `e`. -/
def exponent? (text : List Char) : Option Int :=
  let (negative, digits) := sign text
  (ungrouped? Char.isDigit digits).map fun digits =>
    let value : Int := valueIn 10 digits
    if negative then -value else value

/-- Reads a number with a fraction or an exponent. One beyond all finite numbers is refused unless
it is negative. -/
def float? (text : List Char) : Option Toml := do
  let (negative, body) := sign text
  let mantissa := body.takeWhile fun c => c.toLower != 'e'
  let power ← match body.dropWhile fun c => c.toLower != 'e' with
    | [] => some 0
    | _ :: rest => exponent? rest
  let whole ← wholeDigits? (mantissa.takeWhile (· != '.'))
  let fraction ← match mantissa.dropWhile (· != '.') with
    | [] => some []
    | _ :: rest => ungrouped? Char.isDigit rest
  let value :=
    Binary64.ofDecimal negative (valueIn 10 (whole ++ fraction)) (power - fraction.length)
  if mantissa = body ∧ fraction = [] ∨ value = .infinite false then none else some (.float value)

/-! ### Dates and times -/

/-- Takes so many digits, and gives their value. -/
def fixed (width : Nat) (text : List Char) : Option (Nat × List Char) :=
  let digits := text.take width
  if digits.length = width ∧ digits.all Char.isDigit then
    some (Text.digitsValue digits, text.drop width)
  else none

/-- Removes a character in front. -/
def char (expected : Char) : List Char → Option (List Char)
  | [] => none
  | c :: rest => if c = expected then some rest else none

/-- Takes a date, and gives it as text. -/
def date (text : List Char) : Option (String × List Char) := do
  let (year, rest) ← fixed 4 text
  let (month, rest) ← fixed 2 (← char '-' rest)
  let (day, rest) ← fixed 2 (← char '-' rest)
  if (Date.mk year month day).isValid then
    some (Text.padded 4 year ++ "-" ++ Text.padded 2 month ++ "-" ++ Text.padded 2 day, rest)
  else none

/-- A fraction of a second as text: to the nanosecond, without zeros at the end. -/
def fractionText (digits : List Char) : String :=
  match Text.dropEndWhile (· == '0') (digits.take 9) with
  | [] => ""
  | shown => "." ++ String.ofList shown

/-- Takes a fraction of a second, if there is one, and gives it as text. -/
def fraction (text : List Char) : Option (String × List Char) :=
  match text with
  | '.' :: rest =>
    let digits := rest.takeWhile Char.isDigit
    if digits = [] then none else some (fractionText digits, rest.dropWhile Char.isDigit)
  | _ => some ("", text)

/-- Takes a time of day, and gives it as text. -/
def clock (text : List Char) : Option (String × List Char) := do
  let (hour, rest) ← fixed 2 text
  let (minute, rest) ← fixed 2 (← char ':' rest)
  let (second, rest) ← fixed 2 (← char ':' rest)
  let (fraction, rest) ← fraction rest
  if hour < 24 ∧ minute < 60 ∧ second ≤ 60 then
    some (Text.padded 2 hour ++ ":" ++ Text.padded 2 minute ++ ":" ++ Text.padded 2 second
      ++ fraction, rest)
  else none

/-- Takes an offset from universal time, if there is one, and gives it as text. -/
def offset (text : List Char) : Option (String × List Char) := do
  let (negative, digits) := sign text
  if text = digits then
    match text with
    | c :: rest => if c.toLower = 'z' then some ("Z", rest) else some ("", text)
    | [] => some ("", text)
  else
    let (hour, rest) ← fixed 2 digits
    let (minute, rest) ← fixed 2 (← char ':' rest)
    let shown := if negative ∧ (hour, minute) ≠ (0, 0) then "-" else "+"
    if hour < 24 ∧ minute < 60 then
      some (shown ++ Text.padded 2 hour ++ ":" ++ Text.padded 2 minute, rest)
    else none

/-- Reads a date, a time of day, or both. -/
def moment? (text : List Char) : Option Toml :=
  match date text with
  | some (day, []) => some (.string day)
  | some (day, c :: rest) =>
    if c.toLower = 't' ∨ c = ' ' then
      match clock rest with
      | some (time, rest) =>
        match offset rest with
        | some (offset, []) => some (.string (day ++ "T" ++ time ++ offset))
        | _ => none
      | none => none
    else none
  | none =>
    match clock text with
    | some (time, []) => some (.string time)
    | _ => none

/-! ### Words -/

/-- Reads a number that is named. -/
def named? (text : List Char) : Option Toml :=
  let (negative, name) := sign text
  if name = "inf".toList then some (.float (.infinite negative))
  else if name = "nan".toList then some (.float .nan)
  else none

/-- Reads a value of one word. -/
def read? (text : List Char) : Option Toml :=
  if text = "true".toList then some (.boolean true)
  else if text = "false".toList then some (.boolean false)
  else (moment? text).or ((integer? text).or ((float? text).or (named? text)))

/-- Whether the character can be part of a value of one word. -/
def isPart (c : Char) : Bool := c.isAlphanum || c ∈ ['+', '-', '_', '.', ':']

/-- Whether a time of day follows a word and a space. -/
def isTimeNext : List Char → Bool
  | ' ' :: a :: b :: ':' :: _ => a.isDigit && b.isDigit
  | _ => false

/-- Takes a value of one word. A date may be followed by a space and a time. -/
def value (text : List Char) : Option (Toml × List Char) :=
  let word := text.takeWhile isPart
  let rest := text.dropWhile isPart
  if (date word).any (·.2.isEmpty) && isTimeNext rest then
    let word := word ++ ' ' :: (rest.drop 1).takeWhile isPart
    (read? word).map (·, (rest.drop 1).dropWhile isPart)
  else (read? word).map (·, rest)

end MarkupFeed.Toml.Scalar
