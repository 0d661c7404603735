/-!
# Sets of characters

Sets of characters, written as the ascending code points at which membership
changes: `[a, b, c, d]` are the characters from `a` up to but not including `b`, and from `c` up
to but not including `d`.

Every operation on two sets is one reading of both lists, `combine`, that keeps the code points
at which the combined membership changes. So what the operations return is again ascending, and
equal sets are equal lists.
-/

namespace MarkupFeed

/-- A set of characters as ascending code points at which membership changes. -/
abbrev Runs := List Nat

namespace Runs

/-- Whether the character is in the set: every change at or below it turns membership round. -/
def contains : Runs → Char → Bool
  | [], _ => false
  | change :: later, c => change ≤ c.toNat && !contains later c

/-! ### Sets written down -/

/-- All characters. -/
def all : Runs := [0, 0x110000]

/-- The characters from one to another, both included. -/
def range (first last : Char) : Runs :=
  if first ≤ last then [first.toNat, last.toNat + 1] else []

/-- The one-character set. -/
def single (c : Char) : Runs := range c c

/-- The characters of ranges, which ascend and leave gaps between them. -/
def ofRanges (ranges : List (Char × Char)) : Runs :=
  ranges.flatMap fun (first, last) => range first last

/-- Puts the code points from `first` up to `next` in front of a set that lies at or above
`next`. -/
def extend (first next : Nat) : Runs → Runs
  | [] => [first, next]
  | change :: later =>
    if change = next then first :: later else first :: next :: change :: later

/-- The set of ascending code points. -/
def ofCodePoints : List Nat → Runs
  | [] => []
  | code :: later => extend code (code + 1) (ofCodePoints later)

/-- The set of code points in any order. -/
def ofList (codePoints : List Nat) : Runs := ofCodePoints codePoints.mergeSort.eraseReps

/-- The runs as pairs of a first and a last code point. -/
def toRanges : Runs → List (Nat × Nat)
  | first :: next :: later => (first, next - 1) :: toRanges later
  | [first] => [(first, 0x10FFFF)]
  | [] => []

/-! ### Operations -/

/-- Puts a code point in front of later changes if membership changes there. -/
def emit (before after : Bool) (change : Nat) (later : Runs) : Runs :=
  if before = after then later else change :: later

/-- The changes of a combined set, where `in₁` and `in₂` tell on which side of the two sets the
reading stands. The first argument bounds the changes still to be read. -/
def combineFrom (keep : Bool → Bool → Bool) : Nat → Bool → Bool → Runs → Runs → Runs
  | 0, _, _, _, _ => []
  | _, _, _, [], [] => []
  | fuel + 1, in₁, in₂, a :: as, [] =>
    emit (keep in₁ in₂) (keep (!in₁) in₂) a (combineFrom keep fuel (!in₁) in₂ as [])
  | fuel + 1, in₁, in₂, [], b :: bs =>
    emit (keep in₁ in₂) (keep in₁ (!in₂)) b (combineFrom keep fuel in₁ (!in₂) [] bs)
  | fuel + 1, in₁, in₂, a :: as, b :: bs =>
    if a < b then
      emit (keep in₁ in₂) (keep (!in₁) in₂) a (combineFrom keep fuel (!in₁) in₂ as (b :: bs))
    else if b < a then
      emit (keep in₁ in₂) (keep in₁ (!in₂)) b (combineFrom keep fuel in₁ (!in₂) (a :: as) bs)
    else
      emit (keep in₁ in₂) (keep (!in₁) (!in₂)) a (combineFrom keep fuel (!in₁) (!in₂) as bs)

/-- The characters that a rule keeps, which sees in which of two sets they are and leaves out
those that are in neither. -/
def combine (keep : Bool → Bool → Bool) (runs₁ runs₂ : Runs) : Runs :=
  combineFrom keep (runs₁.length + runs₂.length) false false runs₁ runs₂

/-- The characters in one of two sets. -/
def union (runs₁ runs₂ : Runs) : Runs := combine (· || ·) runs₁ runs₂

/-- The characters in both sets. -/
def inter (runs₁ runs₂ : Runs) : Runs := combine (· && ·) runs₁ runs₂

/-- The characters in the first set and not in the second. -/
def diff (runs₁ runs₂ : Runs) : Runs := combine (fun in₁ in₂ => in₁ && !in₂) runs₁ runs₂

/-- The characters in exactly one of two sets. -/
def symmDiff (runs₁ runs₂ : Runs) : Runs := combine (· != ·) runs₁ runs₂

/-- The characters that are not in the set. -/
def complement (runs : Runs) : Runs := diff all runs

/-- The characters in one of many sets. -/
def unions (sets : List Runs) : Runs := sets.foldr union []

example : union [0x41, 0x5B] [0x50, 0x60, 0x61, 0x7B] = [0x41, 0x60, 0x61, 0x7B] := by decide

example : symmDiff [0x41, 0x5B] [0x50, 0x5B] = [0x41, 0x50] := by decide

example : complement (single 'k') = [0, 0x6B, 0x6C, 0x110000] := by decide

end Runs

end MarkupFeed
