/-!
# Octets, and how an input is cut

The raw material of every tokenizer: a list of octets, with no promise that it is
text in any encoding.

Besides a few octet classes this module holds the two ways an input is cut into consecutive
buffers: `chunks` (equal sizes, which lose nothing: `flatten_chunks`) and `cutAt` (given
positions). Neither ever produces an empty buffer.
-/

namespace MarkupFeed

/-- A sequence of octets. -/
abbrev Bytes := List UInt8

namespace Octet

/-- The line feed, LF. -/
def lineFeed : UInt8 := 10

/-- The carriage return, CR. -/
def carriageReturn : UInt8 := 13

/-- The backslash, which in some formats joins two lines. -/
def backslash : UInt8 := 92

/-- Whether the octet is the code of one of the (ASCII) characters. -/
def among (chars : List Char) (b : UInt8) : Bool := chars.any (fun c => c.toUInt8 == b)

/-- Whether the octet lies between the codes of two (ASCII) characters, both included. -/
def within (low high : Char) (b : UInt8) : Bool := low.toUInt8 ≤ b && b ≤ high.toUInt8

/-- `0` to `9`. -/
def isDigit (b : UInt8) : Bool := within '0' '9' b

/-- `0` to `7`. -/
def isOctalDigit (b : UInt8) : Bool := within '0' '7' b

/-- `0` to `9`, `a` to `f`, `A` to `F`. -/
def isHexDigit (b : UInt8) : Bool := isDigit b || within 'a' 'f' b || within 'A' 'F' b

/-- ASCII letters. -/
def isLetter (b : UInt8) : Bool := within 'a' 'z' b || within 'A' 'Z' b

/-- Space or tab. -/
def isSpaceOrTab (b : UInt8) : Bool := among [' ', '\t'] b

/-- ASCII white space: space, tab, LF, form feed, CR. -/
def isBlank (b : UInt8) : Bool := among [' ', '\t', '\n', '\x0c', '\r'] b

/-- The octet with ASCII capitals turned into small letters. -/
def toLower (b : UInt8) : UInt8 := if within 'A' 'Z' b then b + 32 else b

end Octet

namespace Bytes

/-- The octets of an ASCII text. Characters beyond the first 256 do not occur in the texts this is
used for; they would be cut to their low octet. -/
def ascii (text : String) : Bytes := text.toList.map Char.toUInt8

/-- Equality up to the case of ASCII letters. -/
def eqIgnoringCase (a b : Bytes) : Bool := a.map Octet.toLower == b.map Octet.toLower

/-! ### Cutting an input into buffers -/

/-- Consecutive buffers of `size` octets, the last one possibly shorter. A size of zero counts as
one. The work is done on the octets one at a time; `room` is what the open buffer still takes. -/
def chunks (size : Nat) (input : Bytes) : List Bytes :=
  go (size - 1) input
where
  /-- Fills an open buffer with up to `room` further octets after its first one. -/
  go (room : Nat) : Bytes → List Bytes
    | [] => []
    | b :: rest =>
      match fill room rest with
      | (more, left) => (b :: more) :: left
  /-- Takes `room` octets, and cuts what follows them. -/
  fill : Nat → Bytes → Bytes × List Bytes
    | _, [] => ([], [])
    | 0, b :: rest =>
      match fill (size - 1) rest with
      | (more, left) => ([], (b :: more) :: left)
    | room + 1, b :: rest =>
      match fill room rest with
      | (more, left) => (b :: more, left)

/-- The buffers between ascending cut positions, counted from `start`. Positions that would give an
empty buffer are passed over, and those beyond the end cut nothing. -/
def cutAscending (start : Nat) : List Nat → Bytes → List Bytes
  | [], input => if input.isEmpty then [] else [input]
  | point :: points, input =>
    let size := min (point - start) input.length
    if size = 0 then cutAscending start points input
    else input.take size :: cutAscending (start + size) points (input.drop size)

/-- The buffers between the given positions, which may come in any order, repeat, or lie beyond
the end. -/
def cutAt (points : List Nat) (input : Bytes) : List Bytes :=
  cutAscending 0 (points.mergeSort (fun a b => a ≤ b)) input

theorem flatten_chunks_fill (size room : Nat) (input : Bytes) :
    (chunks.fill size room input).1 ++ (chunks.fill size room input).2.flatten = input := by
  fun_induction chunks.fill size room input with
  | case1 => rfl
  | case2 b rest more left h ih => rw [h] at ih; simpa using ih
  | case3 room b rest more left h ih => rw [h] at ih; simpa using ih

/-- Cutting into equal sizes loses nothing. -/
theorem flatten_chunks (size : Nat) (input : Bytes) : (chunks size input).flatten = input := by
  cases input with
  | nil => rfl
  | cons b rest =>
    have h := flatten_chunks_fill size (size - 1) rest
    simpa [chunks, chunks.go] using h

end Bytes

end MarkupFeed
