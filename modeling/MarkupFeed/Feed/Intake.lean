import MarkupFeed.Mailbox

/-!
# From a mailbox into a pipeline

Mailboxes that flow into a pipeline, message by message.
-/

namespace MarkupFeed.Feed

/-- A mailbox in front of a pipeline. -/
structure Intake (σ : Type) where
  mailbox : Mailbox := {}
  /-- The number of posts sent into the pipeline. -/
  messages : Nat := 0
  pipeline : Pipeline σ

namespace Intake

variable {ε σ : Type}

/-- How many octets of an input are read at a time. -/
def bufferSize : Nat := 8192

/-- Sends posts into the pipeline, up to the first that fails. -/
def relay (channel : Channel ε σ) : Intake σ → List Post → Attempt ε (Intake σ)
  | intake, [] => ⟨intake, none⟩
  | intake, post :: rest =>
    let attempt := intake.pipeline.post channel post
    let next := { intake with messages := intake.messages + 1, pipeline := attempt.state }
    if attempt.error.isSome then ⟨next, attempt.error⟩ else relay channel next rest

/-- Reads the next part of an input. -/
def feed (channel : Channel ε σ) (intake : Intake σ) (input : Bytes) : Attempt ε (Intake σ) :=
  match intake.mailbox.feed input with
  | (mailbox, posts) => relay channel { intake with mailbox } posts

/-- Declares the end of the input. The pipeline is not flushed, so that further mailboxes can
follow in the same pass. -/
def finish (channel : Channel ε σ) (intake : Intake σ) : Attempt ε (Intake σ) :=
  match intake.mailbox.finish with
  | (mailbox, posts) => relay channel { intake with mailbox } posts

/-- Reads consecutive parts of an input and finishes, up to the first failure. -/
def readAll (channel : Channel ε σ) : Intake σ → List Bytes → Attempt ε (Intake σ)
  | intake, [] => intake.finish channel
  | intake, part :: parts =>
    let attempt := intake.feed channel part
    if attempt.error.isSome then attempt else readAll channel attempt.state parts

/-- Reads a whole mailbox. -/
def read (channel : Channel ε σ) (intake : Intake σ) (input : Bytes) : Attempt ε (Intake σ) :=
  readAll channel intake (Bytes.chunks bufferSize input)

end Intake

end MarkupFeed.Feed
