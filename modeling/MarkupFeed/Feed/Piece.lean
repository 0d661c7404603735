import MarkupFeed.Sink
import MarkupFeed.Time

/-!
# The pieces of a feed

What a feed is written in: texts, serialised values, and the demand that a date can be written at
all. Pieces are written one after the other, up to the first that fails.
-/

namespace MarkupFeed.Feed

/-- Why a post could not be published, with `ε` the errors of the sink. -/
inductive Failure (ε : Type) where
  /-- A text could not be written. -/
  | write (cause : ε)
  /-- A serialised value could not be written. -/
  | serialize (cause : ε)
  /-- The year has no four digits, as the dates of mail headers need it. -/
  | noMailDate (time : Time)

/-- The failure in words, given those for the errors of the sink. -/
def Failure.message {ε : Type} (causeMessage : ε → String) : Failure ε → String
  | write cause => "failed to write posts: " ++ causeMessage cause
  | serialize cause => "failed to serialize post: " ++ causeMessage cause
  | noMailDate time => "no mail date for " ++ time.stamp

/-- A piece of a feed. -/
inductive Piece where
  | text (octets : Bytes)
  /-- A value in serialised form. -/
  | value (octets : Bytes)
  /-- Nothing to write: what follows needs the date of a mail header. -/
  | needsMailDate (time : Time)
  deriving DecidableEq

namespace Piece

variable {ε τ : Type}

/-- The octets of a piece. -/
def octets : Piece → Bytes
  | text octets | value octets => octets
  | needsMailDate _ => []

/-- The octets of consecutive pieces. -/
def output (pieces : List Piece) : Bytes := pieces.flatMap octets

/-- The failure an error of the sink comes to while the piece is written. -/
def failure (piece : Piece) (cause : ε) : Failure ε :=
  match piece with
  | value _ => .serialize cause
  | _ => .write cause

/-- Writes a piece. -/
def write (sink : Sink ε τ) (piece : Piece) (memory : τ) : Outcome (Failure ε) τ Unit :=
  match piece with
  | needsMailDate time =>
    ⟨(), memory, [], if time.hasMailDate then none else some (.noMailDate time)⟩
  | piece =>
    let outcome := (Script.texts () [piece.octets]).run sink memory
    ⟨(), outcome.sink, outcome.output, outcome.error.map piece.failure⟩

/-- Writes consecutive pieces, up to the first that fails. -/
def writeAll (sink : Sink ε τ) : List Piece → τ → Outcome (Failure ε) τ Unit
  | [], memory => ⟨(), memory, [], none⟩
  | piece :: rest, memory =>
    let outcome := piece.write sink memory
    if outcome.error.isSome then outcome
    else
      let later := writeAll sink rest outcome.sink
      { later with output := outcome.output ++ later.output }

end Piece

end MarkupFeed.Feed
