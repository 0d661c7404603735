import MarkupFeed.Pattern

/-!
# The size of a pattern's automata

How much room the automaton of a pattern takes, which limits the patterns that are admitted.

An automaton reads the octets of a text, forward or backward. It has a state for each octet of a
character and for each place where ways meet or part; a repetition has the states of its body once
for each round that is counted. A set beyond ASCII is cut into sequences of octet ranges, and those
that end alike share states when read forward, those that start alike when read backward.
-/

namespace MarkupFeed.Pattern

/-! ### Sequences of octets -/

/-- Octets from one to another, both included. -/
abbrev OctetRange := Nat × Nat

/-- The numbers from one to another as sequences of ranges of digits to the base 64, of which the
first digit may be larger and `trail` more follow. -/
def digitRanges : Nat → Nat → Nat → List (List OctetRange)
  | 0, low, high => [[(low, high)]]
  | trail + 1, low, high =>
    let unit := 64 ^ (trail + 1)
    let (first, last) := (low / unit, high / unit)
    let (lowRest, highRest) := (low % unit, high % unit)
    if first = last then (digitRanges trail lowRest highRest).map ((first, first) :: ·)
    else
      let starts :=
        if lowRest = 0 then []
        else (digitRanges trail lowRest (unit - 1)).map ((first, first) :: ·)
      let ends :=
        if highRest = unit - 1 then []
        else (digitRanges trail 0 highRest).map ((last, last) :: ·)
      let start := if lowRest = 0 then first else first + 1
      let stop := if highRest = unit - 1 then last + 1 else last
      let whole :=
        if start < stop then [(start, stop - 1) :: List.replicate (trail + 1) (0, 63)] else []
      starts ++ whole ++ ends

/-- The code points with so many trail octets, from a first to a last one, and what their lead octet
counts from. -/
def octetForms : List (Nat × Nat × Nat × Nat) :=
  [(0, 0, 0x7F, 0), (1, 0x80, 0x7FF, 0xC0), (2, 0x800, 0xD7FF, 0xE0), (2, 0xE000, 0xFFFF, 0xE0),
   (3, 0x10000, 0x10FFFF, 0xF0)]

/-- The octets of the characters of a set, as ascending sequences of ranges. -/
def octetSequences (members : Runs) : List (List OctetRange) :=
  members.toRanges.flatMap fun (first, last) =>
    octetForms.flatMap fun (trail, low, high, lead) =>
      if max first low ≤ min last high then
        (digitRanges trail (max first low) (min last high)).map fun sequence =>
          match sequence with
          | (a, b) :: rest => (lead + a, lead + b) :: rest
          | [] => []
      else []

/-- Of sequences that ascend, what follows each of their first ranges. -/
def tails (sequences : List (List OctetRange)) : List (List (List OctetRange)) :=
  (sequences.splitBy fun a b => a.head? == b.head?).map (·.map (·.drop 1))

/-- The room for states from which sequences are read forward, and for all states after them.
States with the same sequences are one. -/
def forwardRoom : Nat → List (List (List OctetRange)) → Nat
  | 0, _ => 0
  | fuel + 1, states =>
    let states := (states.filter (· ≠ [[]])).eraseDups
    (states.map fun sequences => 32 + 8 * (tails sequences).length).sum
      + forwardRoom fuel (states.flatMap tails)

/-- How many ranges two sequences have in common at the start. -/
def commonLength : List OctetRange → List OctetRange → Nat
  | a :: as, b :: bs => if a = b then commonLength as bs + 1 else 0
  | _, _ => 0

/-- How many different sequences of ranges the sequences of a list start with. -/
def startCount (before : List OctetRange) : List (List OctetRange) → Nat
  | [] => 0
  | sequence :: later =>
    sequence.length - commonLength before sequence + startCount sequence later

/-! ### Automata -/

/-- The direction in which an automaton reads. -/
inductive Direction where
  | forward
  | backward
  deriving DecidableEq, Repr

/-- The room for a set. -/
def setRoom (direction : Direction) (members : Runs) : Nat :=
  let ranges := members.toRanges
  match ranges with
  | [(first, last)] =>
    if first = last then 32 * (Char.ofNat first).utf8Size
    else if last < 0x80 then 72
    else beyondAscii
  | _ => if ranges.all (·.2 < 0x80) then 64 + 8 * ranges.length else beyondAscii
where
  /-- The room for a set with members beyond ASCII. -/
  beyondAscii : Nat :=
    let sequences := octetSequences members
    match direction with
    | .forward => 32 + forwardRoom 4 [sequences]
    | .backward => 64 + 32 * startCount [] sequences + 4 * sequences.length

/-- Whether some match may take no character, at some position. -/
def mayTakeNothing : Pattern → Bool
  | empty | anchor _ => true
  | one _ => false
  | seq first second => mayTakeNothing first && mayTakeNothing second
  | alt first second => mayTakeNothing first || mayTakeNothing second
  | times least _ body => least == 0 || mayTakeNothing body
  | group body => mayTakeNothing body

/-- The room for a pattern that is repeated, given the room for it. -/
def timesRoom (body : Pattern) (room : Nat) : Nat → Option Nat → Nat
  | 0, some 1 => room + 72
  | 0, none => if mayTakeNothing body then room + 112 else room + 40
  | least, none => least * room + 40
  | least, some 0 => least * room
  | least, some extra => (if least = 0 then 32 else least * room) + 32 + extra * (room + 40)

/-- The room for a pattern; `branch` tells whether it is an alternative of a choice. -/
def room (direction : Direction) (branch : Bool) : Pattern → Nat
  | alt first second =>
    (if branch then 0 else 64) + room direction true first + room direction true second
  | empty | anchor _ => 32 + inChoice
  | one members => setRoom direction members + inChoice
  | seq first second => room direction false first + room direction false second + inChoice
  | times least extra body =>
    timesRoom body (room direction false body) least extra + inChoice
  | group body =>
    room direction false body + (if direction = .forward then 64 else 0) + inChoice
where
  /-- The room for a way from the choice around. -/
  inChoice : Nat := if branch then 4 else 0

/-- The room for the automaton of a whole pattern, which skips to where a match starts. -/
def automatonRoom (direction : Direction) (pattern : Pattern) : Nat :=
  144 + room direction false (group pattern)

/-- Whether the automata of a pattern fit into ten mebibytes each. -/
def fits (pattern : Pattern) : Bool :=
  let limit := 10 * 1024 * 1024
  automatonRoom .forward pattern ≤ limit && automatonRoom .backward pattern ≤ limit

end MarkupFeed.Pattern
