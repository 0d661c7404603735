import MarkupFeed.Text.Runs

/-!
# Tables in a compact notation

Tables of character properties in a compact notation: hexadecimal numbers and names between
blanks.

A set is written as the lengths of its gaps and runs in turn, from the first code point on, and a
partition of the code points as names and lengths in turn.
-/

namespace MarkupFeed

namespace Text

/-- The value of a hexadecimal digit. -/
def hexDigitValue? (c : Char) : Option Nat :=
  if c.isDigit then some (c.toNat - '0'.toNat)
  else if 'a' ≤ c ∧ c ≤ 'f' then some (c.toNat - 'a'.toNat + 10)
  else if 'A' ≤ c ∧ c ≤ 'F' then some (c.toNat - 'A'.toNat + 10)
  else none

/-- The value of hexadecimal digits, the first one the most significant; what is no digit counts
as zero. -/
def hexDigitsValue (digits : List Char) : Nat :=
  digits.foldl (fun value c => value * 16 + (hexDigitValue? c).getD 0) 0

/-- The words of a table, which spaces and line ends separate: `word` holds the word in progress,
its last character first. -/
def tableWordsFrom (word : List Char) : List Char → List (List Char)
  | [] => if word.isEmpty then [] else [word.reverse]
  | c :: rest =>
    if c = ' ' ∨ c = '\n' then
      if word.isEmpty then tableWordsFrom [] rest else word.reverse :: tableWordsFrom [] rest
    else tableWordsFrom (c :: word) rest

/-- The words of a table. -/
def tableWords (table : String) : List (List Char) := tableWordsFrom [] table.toList

end Text

namespace Runs

/-- The set whose changes lie as far apart as the numbers say. -/
def ofLengths (start : Nat) : List Nat → Runs
  | [] => []
  | length :: later => (start + length) :: ofLengths (start + length) later

/-- The set of a table of gaps and runs. -/
def ofTable (table : String) : Runs :=
  ofLengths 0 ((Text.tableWords table).map Text.hexDigitsValue)

end Runs

/-- All code points from the first one on, cut into stretches that share a name. -/
abbrev Partition := List (String × Nat)

namespace Partition

/-- Pairs names with lengths. -/
def ofWords : List (List Char) → Partition
  | name :: length :: later => (String.ofList name, Text.hexDigitsValue length) :: ofWords later
  | _ => []

/-- The partition of a table of names and lengths. -/
def ofTable (table : String) : Partition := ofWords (Text.tableWords table)

/-- The stretches with certain names, the first of which starts at `start`. -/
def membersFrom (keep : String → Bool) (start : Nat) : Partition → Runs
  | [] => []
  | (name, length) :: later =>
    let members := membersFrom keep (start + length) later
    if keep name then Runs.extend start (start + length) members else members

/-- The code points in stretches with certain names. -/
def members (partition : Partition) (keep : String → Bool) : Runs := membersFrom keep 0 partition

end Partition

example : Runs.ofTable "41 1a 6 1a" = [0x41, 0x5B, 0x61, 0x7B] := by decide

example : (Partition.ofTable "Cc 20 Zs 1 Po 3 Sc 1").members (· ∈ ["Zs", "Po"])
    = [0x20, 0x24] := by decide

end MarkupFeed
