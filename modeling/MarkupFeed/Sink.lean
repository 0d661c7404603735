import MarkupFeed.Bytes

/-!
# Sinks, and plans of writes

Where text is written to.

A sink may take only part of a text and fail; what it takes of it is the first octets. A text of
no octets never reaches the sink, so that it cannot fail. `Script` is a plan of writes together
with what its author remembers after each of them: when a write fails, the script stops there and
the author is left with what it remembered before that write.
-/

namespace MarkupFeed

/-- What became of a text offered to a sink. -/
inductive Reply (ε : Type) where
  /-- The sink took all of it. -/
  | all
  /-- The sink took the first octets only, and failed. -/
  | part (taken : Nat) (error : ε)
  deriving DecidableEq, Repr

/-- A sink with a memory of type `τ`, which fails with errors of type `ε`. -/
structure Sink (ε τ : Type) where
  /-- Offers a text that has octets. -/
  write : τ → Bytes → Reply ε × τ

namespace Sink

/-- The sink that takes everything. -/
def unlimited : Sink Empty Unit where
  write _ _ := (.all, ())

/-- The failure of a sink that has no room left. -/
inductive Full where
  | full
  deriving DecidableEq, Repr

def Full.message : Full → String
  | full => "sink full"

/-- The sink that takes so many octets in all; without a limit, everything. Its memory is the room
it has left. -/
def limited : Sink Full (Option Nat) where
  write
    | none, _ => (.all, none)
    | some room, text =>
      if text.length ≤ room then (.all, some (room - text.length)) else (.part room .full, some 0)

end Sink

/-- What came of writing: what the author remembers, what the sink remembers, what reached it, and
the first error. -/
structure Outcome (ε τ : Type) (σ : Type u) where
  state : σ
  sink : τ
  output : Bytes
  error : Option ε

/-- A plan of writes. -/
structure Script (σ : Type) where
  /-- What the author remembers before the first write. -/
  start : σ
  /-- The texts to write, each with what the author remembers once it is written. -/
  writes : List (Bytes × σ)

namespace Script

variable {σ ε τ : Type}

/-- Writes nothing. -/
def silent (state : σ) : Script σ := ⟨state, []⟩

/-- Writes texts that change nothing the author remembers. -/
def texts (state : σ) (texts : List Bytes) : Script σ := ⟨state, texts.map (·, state)⟩

/-- The octets a script writes. -/
def output (script : Script σ) : Bytes := script.writes.flatMap Prod.fst

/-- What the author remembers at the end. -/
def final (script : Script σ) : σ := (script.writes.getLast?.map Prod.snd).getD script.start

/-- Performs writes one after the other, up to the first that fails. -/
def perform (sink : Sink ε τ) : σ → List (Bytes × σ) → τ → Outcome ε τ σ
  | state, [], memory => ⟨state, memory, [], none⟩
  | state, (text, next) :: rest, memory =>
    if text.isEmpty then perform sink next rest memory
    else
      match sink.write memory text with
      | (.all, memory) =>
        let outcome := perform sink next rest memory
        { outcome with output := text ++ outcome.output }
      | (.part taken error, memory) => ⟨state, memory, text.take taken, some error⟩

/-- Performs a script. -/
def run (sink : Sink ε τ) (script : Script σ) (memory : τ) : Outcome ε τ σ :=
  perform sink script.start script.writes memory

end Script

end MarkupFeed
