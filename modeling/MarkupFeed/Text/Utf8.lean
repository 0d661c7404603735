import MarkupFeed.Bytes

/-!
# Characters as octets and back

Reading goes through a small machine, `Reader`, that owes at most three trail octets. Octets that
cannot continue the character in progress end it: the longest run that could still have become a
character counts as one fault, and the offending octet starts afresh. `read` keeps the faults
apart (`none`), `decode?` refuses texts that have any, and `decodeLossy` shows each of them as
U+FFFD.
-/

namespace MarkupFeed.Utf8

/-- The octets of a text. -/
def encode (text : String) : Bytes := text.toList.flatMap String.utf8EncodeChar

/-- Where a reader stands between two octets. -/
inductive Reader where
  /-- Between characters. -/
  | fresh
  /-- Inside a character: `owed + 1` trail octets are missing, the next of them lies between `low`
  and `high`, and the octets so far carry the bits of `value`. -/
  | inside (owed : Nat) (low high : UInt8) (value : Nat)
  deriving DecidableEq, Repr

/-- Reads the first octet of a character: a whole character, the start of one, or a fault. -/
def Reader.lead (b : UInt8) : List (Option Char) × Reader :=
  if b < 0x80 then ([some (Char.ofNat b.toNat)], .fresh)
  else if b < 0xC2 then ([none], .fresh)
  else if b < 0xE0 then ([], .inside 0 0x80 0xBF (b.toNat % 0x20))
  else if b = 0xE0 then ([], .inside 1 0xA0 0xBF (b.toNat % 0x10))
  else if b = 0xED then ([], .inside 1 0x80 0x9F (b.toNat % 0x10))
  else if b < 0xF0 then ([], .inside 1 0x80 0xBF (b.toNat % 0x10))
  else if b = 0xF0 then ([], .inside 2 0x90 0xBF (b.toNat % 0x08))
  else if b < 0xF4 then ([], .inside 2 0x80 0xBF (b.toNat % 0x08))
  else if b = 0xF4 then ([], .inside 2 0x80 0x8F (b.toNat % 0x08))
  else ([none], .fresh)

/-- Reads one octet. What is returned first is what the octet completes: characters, and `none` for
a fault. -/
def Reader.step : Reader → UInt8 → List (Option Char) × Reader
  | .fresh, b => lead b
  | .inside owed low high value, b =>
    if low ≤ b && b ≤ high then
      match owed, value * 64 + b.toNat % 64 with
      | 0, code => ([some (Char.ofNat code)], .fresh)
      | owed + 1, code => ([], .inside owed 0x80 0xBF code)
    else
      match lead b with
      | (done, next) => (none :: done, next)

/-- What a reader in the given state makes of the octets that follow. -/
def readFrom : Reader → Bytes → List (Option Char)
  | .fresh, [] => []
  | .inside .., [] => [none]
  | reader, b :: rest =>
    match reader.step b with
    | (done, next) => done ++ readFrom next rest

/-- The characters of a sequence of octets, with `none` for each maximal run that is not one. -/
def read (input : Bytes) : List (Option Char) := readFrom .fresh input

/-- The text the octets encode, if they encode one. -/
def decode? (input : Bytes) : Option String := ((read input).mapM id).map String.ofList

/-- The characters of the octets, with U+FFFD in place of each fault. -/
def decodeChars (input : Bytes) : List Char := (read input).map (·.getD '\ufffd')

/-- The text of the octets, with U+FFFD in place of each fault. -/
def decodeLossy (input : Bytes) : String := String.ofList (decodeChars input)

example : decodeLossy [0x61, 0xE2, 0x82, 0x62, 0xFF, 0xE2, 0x82, 0xAC] = "a\ufffdb\ufffd€" := by
  decide +kernel

example : decode? [0xED, 0xA0, 0x80] = none := by decide +kernel

end MarkupFeed.Utf8
