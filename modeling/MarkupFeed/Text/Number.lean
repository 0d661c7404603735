/-!
# Whole numbers in decimal notation
-/

namespace MarkupFeed.Text

/-- The value of ASCII digits, the first one the most significant. -/
def digitsValue (digits : List Char) : Nat :=
  digits.foldl (fun value c => value * 10 + (c.toNat - '0'.toNat)) 0

/-- The number of a text of ASCII digits, of which there is at least one. -/
def digits? (text : List Char) : Option Nat :=
  if !text.isEmpty && text.all Char.isDigit then some (digitsValue text) else none

/-- The number of a text of ASCII digits, which may have a plus in front. -/
def natural? (text : String) : Option Nat :=
  match text.toList with
  | '+' :: rest => digits? rest
  | chars => digits? chars

/-- The number of a text of ASCII digits, which may have a sign in front. -/
def integer? (text : String) : Option Int :=
  match text.toList with
  | '-' :: rest => (digits? rest).map fun n => -(n : Int)
  | '+' :: rest => (digits? rest).map Int.ofNat
  | chars => (digits? chars).map Int.ofNat

/-- The number, if 32 bits hold it. -/
def word32? (text : String) : Option UInt32 :=
  (natural? text).bind fun n => if n < UInt32.size then some (UInt32.ofNat n) else none

/-- Decimal digits, with zeros in front up to a width. -/
def padded (width n : Nat) : String :=
  let digits := Nat.toDigits 10 n
  String.ofList (List.replicate (width - digits.length) '0' ++ digits)

end MarkupFeed.Text
