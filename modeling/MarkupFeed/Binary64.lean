import MarkupFeed.Text.Number

/-!
# Floating-point numbers of 64 bits

Floating-point numbers of 64 bits, as a significand times a power of two, in exact arithmetic.

A decimal is rounded to the nearest number, and to the one with the even significand if two are as
near. In the other direction a number is written with the fewest digits that are rounded back to it,
and among those with the ones nearest to it.
-/

namespace MarkupFeed

/-- A floating-point number of 64 bits. -/
inductive Binary64 where
  /-- The significand is below 2⁵³, and the exponent between -1074 and 971. -/
  | finite (negative : Bool) (significand : Nat) (exponent : Int)
  | infinite (negative : Bool)
  /-- No number. -/
  | nan
  deriving DecidableEq, Repr

namespace Binary64

/-- The least exponent. -/
def minExponent : Int := -1074

/-- The greatest exponent. -/
def maxExponent : Int := 971

/-! ### Rounding -/

/-- The quotient, rounded to the nearest number, and to the even one of two. -/
def roundDiv (n d : Nat) : Nat :=
  let quotient := n / d
  let twice := 2 * (n % d)
  if d < twice ∨ twice = d ∧ quotient % 2 = 1 then quotient + 1 else quotient

/-- Both numbers of a fraction multiplied so that the fraction is multiplied by a power. -/
def scale (base : Nat) (power : Int) (n d : Nat) : Nat × Nat :=
  if 0 ≤ power then (n * base.pow power.toNat, d) else (n, d * base.pow (-power).toNat)

/-- The number with a significand that may have reached 2⁵³ by rounding. -/
def carry (negative : Bool) (significand : Nat) (exponent : Int) : Binary64 :=
  let (significand, exponent) :=
    if significand = 1 <<< 53 then (1 <<< 52, exponent + 1) else (significand, exponent)
  if maxExponent < exponent then infinite negative else finite negative significand exponent

/-- The number nearest to the fraction `n / d`. -/
def ofFraction (negative : Bool) (n d : Nat) : Binary64 :=
  if n = 0 then finite negative 0 minExponent
  else
    let guess : Int := (n.log2 : Int) - d.log2
    let (left, right) := scale 2 (-guess) n d
    let magnitude := if left < right then guess - 1 else guess
    let exponent := max (magnitude - 52) minExponent
    let (n, d) := scale 2 (-exponent) n d
    carry negative (roundDiv n d) exponent

/-- The number nearest to `digits * 10 ^ power`. Powers far beyond all numbers are cut short. -/
def ofDecimal (negative : Bool) (digits : Nat) (power : Int) : Binary64 :=
  let magnitude := power + (Nat.toDigits 10 digits).length
  if digits = 0 ∨ magnitude < -400 then finite negative 0 minExponent
  else if 400 < magnitude then infinite negative
  else
    let (n, d) := scale 10 power digits 1
    ofFraction negative n d

/-- The part of a decimal after `e`, if there is one. -/
def exponentPart? : List Char → Option Int
  | [] => some 0
  | c :: rest => if c.toLower = 'e' then Text.integer? (String.ofList rest) else none

/-- The number a text of digits stands for, with an optional point and an optional exponent. -/
def decimal? (negative : Bool) (text : List Char) : Option Binary64 :=
  let whole := text.takeWhile Char.isDigit
  let (fraction, rest) :=
    match text.dropWhile Char.isDigit with
    | '.' :: rest => (rest.takeWhile Char.isDigit, rest.dropWhile Char.isDigit)
    | rest => ([], rest)
  if whole.isEmpty && fraction.isEmpty then none
  else
    (exponentPart? rest).map fun exponent =>
      ofDecimal negative (Text.digitsValue (whole ++ fraction)) (exponent - fraction.length)

/-- The number a text stands for without its sign. -/
def unsigned? (negative : Bool) (text : List Char) : Option Binary64 :=
  let small := String.ofList (text.map Char.toLower)
  if small = "inf" ∨ small = "infinity" then some (infinite negative)
  else if small = "nan" then some nan
  else decimal? negative text

/-- The number a text stands for. -/
def ofText? (text : String) : Option Binary64 :=
  match text.toList with
  | '-' :: rest => unsigned? true rest
  | '+' :: rest => unsigned? false rest
  | chars => unsigned? false chars

/-! ### Shortest decimals -/

/-- The numbers that are rounded to a significand times a power of two: the ends of their interval,
and the number itself, as multiples of a quarter of the power. The interval reaches less far down
from a power of two, below which numbers lie closer. -/
structure Interval where
  low : Nat
  middle : Nat
  high : Nat
  /-- Whether the ends are rounded to the number as well. -/
  closed : Bool

/-- The interval of a number. -/
def interval (significand : Nat) (exponent : Int) : Interval :=
  let below := if significand = 1 <<< 52 ∧ minExponent < exponent then 1 else 2
  ⟨4 * significand - below, 4 * significand, 4 * significand + 2, significand % 2 == 0⟩

/-- Whether the `c`-th point of a grid lies in the interval, where points are `unit` apart if
quarters are `factor` apart. -/
def Interval.contains (i : Interval) (factor unit c : Nat) : Bool :=
  if i.closed then i.low * factor ≤ c * unit && c * unit ≤ i.high * factor
  else i.low * factor < c * unit && c * unit < i.high * factor

/-- The multiple of `10 ^ power` nearest to the number among those in its interval, if there is
one. -/
def Interval.multiple? (i : Interval) (exponent power : Int) : Option Nat :=
  let (factor, unit) := scale 2 (exponent - 2) 1 1
  let (factor, unit) := scale 10 (-power) factor unit
  let below := i.middle * factor / unit
  let above := below + 1
  match i.contains factor unit below, i.contains factor unit above with
  | true, true =>
    let down := i.middle * factor - below * unit
    let up := above * unit - i.middle * factor
    some (if down < up ∨ down = up ∧ below % 2 = 0 then below else above)
  | true, false => some below
  | false, true => some above
  | false, false => none

/-- The first of descending powers of ten with a multiple in the interval, and the multiple. -/
def Interval.search (i : Interval) (exponent : Int) : Nat → Int → Nat × Int
  | 0, power => (0, power)
  | steps + 1, power =>
    match i.multiple? exponent power with
    | some digits => (digits, power)
    | none => i.search exponent steps (power - 1)

/-- The shortest decimal of a number other than zero: digits, and the power of ten they are
multiplied by. -/
def shortest (significand : Nat) (exponent : Int) : Nat × Int :=
  let top := (exponent + significand.log2) * 30103 / 100000 + 2
  (interval significand exponent).search exponent 24 top

/-- Digits times a power of ten, without an exponent. -/
def positional (digits : List Char) (power : Int) : List Char :=
  if 0 ≤ power then digits ++ List.replicate power.toNat '0'
  else
    let places := (-power).toNat
    let padded := List.replicate (places + 1 - digits.length) '0' ++ digits
    padded.take (padded.length - places) ++ '.' :: padded.drop (padded.length - places)

/-- The number in decimal digits: as few as tell it from all others, and no exponent. -/
def text : Binary64 → String
  | nan => "NaN"
  | infinite negative => if negative then "-inf" else "inf"
  | finite negative significand exponent =>
    let sign := if negative then "-" else ""
    if significand = 0 then sign ++ "0"
    else
      let (digits, power) := shortest significand exponent
      sign ++ String.ofList (positional (Nat.toDigits 10 digits) power)

/-! ### Numbers as settings -/

/-- Whether the number is not zero. -/
def isNonzero : Binary64 → Bool
  | finite _ significand _ => significand != 0
  | infinite _ | nan => true

/-- The nearest whole number that 64 bits hold, and of two the greater. -/
def word64 : Binary64 → Nat
  | nan => 0
  | infinite negative => if negative then 0 else UInt64.size - 1
  | finite negative significand exponent =>
    if negative then 0
    else
      let (n, d) := scale 2 exponent significand 1
      min ((2 * n + d) / (2 * d)) (UInt64.size - 1)

example : (ofText? "5e-324").map text = some
    ("0." ++ String.ofList (List.replicate 323 '0') ++ "5") := by decide +kernel

example : (ofText? "2.50").map word64 = some 3 := by decide +kernel

end Binary64

end MarkupFeed
