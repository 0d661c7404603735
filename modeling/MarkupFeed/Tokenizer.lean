import MarkupFeed.Event

/-!
# A machine driven through buffers

Drives a machine over consecutive buffers.

A tokenizer may be fed any number of buffers (`feed`); what it is in the middle of when one runs
out carries over to the next. `flush` declares the end of the input. Two octets cannot be judged
without the one after them: CR, alone or the start of CR LF, and a backslash, which joins two
lines when a line end follows. When such an octet is the last one of a buffer the tokenizer
holds it back, and reports it later through a buffer of its own.

`scan` is structural in the buffer: an octet that a machine rejects is offered to it once more,
between tokens, and one refused even there becomes an error token of its own.
-/

namespace MarkupFeed

/-- Where the tokenizer stands in a line continuation. -/
inductive Continuation where
  /-- Outside. -/
  | none
  /-- After the backslash. -/
  | backslash
  /-- After the backslash and a CR, which an LF may still complete. -/
  | carriageReturn
  deriving DecidableEq, Repr

namespace Continuation

/-- How the continuation goes on with an octet, if the octet is part of it. -/
def extend : Continuation → UInt8 → Option Continuation
  | .none, _ => Option.none
  | .backslash, b =>
    if b = Octet.lineFeed then some .none
    else if b = Octet.carriageReturn then some .carriageReturn
    else Option.none
  | .carriageReturn, b => if b = Octet.lineFeed then some .none else Option.none

end Continuation

/-- What follows an octet. -/
inductive Ahead where
  /-- This octet. -/
  | octet (b : UInt8)
  /-- Something, but it is not known yet what. -/
  | unknown
  /-- The end of the input. -/
  | over
  deriving DecidableEq, Repr

/-- A machine on its way through an input. -/
structure Tokenizer (m : Machine) where
  /-- The state of the machine. -/
  state : m.State := m.start
  /-- An octet held back until the next one is known. -/
  held : Option UInt8 := none
  /-- Where the tokenizer stands in a line continuation. -/
  continuation : Continuation := .none

namespace Tokenizer

variable {m : Machine}

/-- The tokenizer before any input. -/
def fresh (m : Machine) : Tokenizer m := {}

/-- Whether a token or a held octet is waiting for more input. -/
def isPending (t : Tokenizer m) : Bool := t.held.isSome || !m.isIdle t.state

/-! ### One buffer -/

/-- A tokenizer in the middle of a buffer of `length` octets. -/
structure Scan (m : Machine) extends Tokenizer m where
  /-- The length of the buffer. -/
  length : Nat
  /-- Where the piece of the current token starts in the buffer. -/
  first : Nat
  /-- The octets of that piece, latest first. -/
  piece : Bytes := []
  /-- What was found so far, latest first. -/
  found : List (Report m.Kind) := []
  /-- How many octets of the following buffer have been read already. -/
  skip : Nat := 0

namespace Scan

/-- Reports the current piece as a piece of a token of the given kind, and starts the next one. -/
def emit (s : Scan m) (kind : m.Kind) (fragment : Bool) : Scan m :=
  { s with
    first := s.first + s.piece.length
    piece := []
    found := ⟨.token kind s.piece.reverse fragment, s.first, s.length⟩ :: s.found }

/-- Closes the token in progress. -/
def close (s : Scan m) : Scan m :=
  match m.finish s.state with
  | (kind, idle) => { s with state := idle }.emit kind false

/-- Reports the current piece as a fragment, if there is one. -/
def interrupt (s : Scan m) : Scan m :=
  if s.piece.isEmpty || m.isIdle s.state then s else s.emit (m.kind s.state) true

/-- Takes an octet that the machine reads between tokens, or that it did not reject. A machine
that refuses it even there gets it back as an error token. -/
def take (s : Scan m) (b : UInt8) : Scan m :=
  match m.step s.state b with
  | .shift next => { s with state := next, piece := b :: s.piece }
  | .accept next => { s with state := next, piece := b :: s.piece }.close
  | .reject next =>
    -- the error is this octet alone, whatever was taken in front of it outside of tokens
    { s with
      state := (m.finish next).2
      first := s.first + s.piece.length
      piece := [b] }.emit TokenKind.error false

/-- Offers an octet to the machine. If it belongs to the next token, the current one is closed
first. -/
def offer (s : Scan m) (b : UInt8) : Scan m :=
  match m.isIdle s.state, m.step s.state b with
  | false, .reject next => { s with state := next }.close.take b
  | _, _ => s.take b

/-- Takes the token in progress up to a line end: closed, or interrupted if it outlives the
line. -/
def endLine (s : Scan m) : Scan m :=
  if m.isIdle s.state then s
  else if m.spansNewline s.state then s.interrupt
  else s.close

/-- Reports a line end. One that reaches into the following buffer is reported through a buffer of
its own. -/
def newline (s : Scan m) (text : Bytes) : Scan m :=
  let here := s.first + s.piece.length
  let report : Report m.Kind :=
    if here + text.length ≤ s.length then ⟨.newline text, here, s.length⟩
    else ⟨.newline text, 0, text.length⟩
  { s with
    state := m.newline s.state
    first := here + text.length
    piece := []
    found := report :: s.found }

/-- How a scan goes on after an octet. -/
inductive Next (m : Machine) where
  /-- With the octet after it. -/
  | octet (s : Scan m)
  /-- With the octet after the LF that follows it. -/
  | afterLineFeed (s : Scan m)
  /-- Not before more is known: the octet, the last one of its buffer, is held back. -/
  | wait (s : Scan m)

/-- Whether a backslash here joins two lines, provided a line end follows. -/
def joinsLines (s : Scan m) : Bool :=
  m.continuesLines && !m.isIdle s.state && !m.isEscaping s.state

/-- Reads one octet, given what follows it. -/
def advance (s : Scan m) (b : UInt8) (ahead : Ahead) : Next m :=
  match s.continuation.extend b with
  | some continuation => .octet { s with continuation, piece := b :: s.piece }
  | none =>
    let s := { s with continuation := .none }
    if b = Octet.lineFeed then .octet (s.endLine.newline [b])
    else if b = Octet.carriageReturn then
      if ahead = .octet Octet.lineFeed then .afterLineFeed (s.endLine.newline [b, Octet.lineFeed])
      else if ahead = .unknown then .wait { s with held := some b }
      else .octet (s.endLine.newline [b])
    else if b = Octet.backslash && s.joinsLines then
      if ahead = .octet Octet.lineFeed ∨ ahead = .octet Octet.carriageReturn then
        .octet { s with continuation := .backslash, piece := b :: s.piece }
      else if ahead = .unknown then .wait { s with held := some b }
      else .octet (s.offer b)
    else .octet (s.offer b)

/-- Reads the rest of a buffer. `after` tells what follows the buffer. -/
def run (after : Ahead) : Bytes → Scan m → Scan m
  | [], s => s.interrupt
  | b :: rest, s =>
    match s.advance b (rest.head?.elim after .octet) with
    | .octet s => run after rest s
    | .wait s => s.interrupt
    | .afterLineFeed s =>
      match rest with
      | [] => { s with skip := 1 }.interrupt
      | _ :: rest => run after rest s

end Scan

/-- Reads a buffer from position `start` on. -/
def scan (t : Tokenizer m) (buffer : Bytes) (start : Nat) (after : Ahead) : Scan m :=
  Scan.run after (buffer.drop start) { t with length := buffer.length, first := start }

/-! ### A sequence of buffers -/

/-- Reads a held octet, given what follows it. -/
def release (t : Tokenizer m) (after : Ahead) : Scan m :=
  match t.held with
  | none => { t with length := 0, first := 0 }
  | some b => { t with held := none }.scan [b] 0 after

/-- Reads the next buffer. -/
def feed (t : Tokenizer m) (buffer : Bytes) : Tokenizer m × List (Report m.Kind) :=
  match buffer with
  | [] => (t, [])
  | b :: _ =>
    let before := t.release (.octet b)
    let scanned := before.toTokenizer.scan buffer before.skip .unknown
    (scanned.toTokenizer, before.found.reverse ++ scanned.found.reverse)

/-- Declares the end of the input: a held octet is read, and a pending token closed. -/
def flush (t : Tokenizer m) : Tokenizer m × List (Report m.Kind) :=
  let before := t.release .over
  let t := { before.toTokenizer with continuation := .none }
  if m.isIdle t.state then (t, before.found.reverse)
  else
    match m.finish t.state with
    | (kind, idle) =>
      ({ t with state := idle }, before.found.reverse ++ [⟨.token kind [] false, 0, 0⟩])

/-- Reads consecutive buffers. -/
def feedAll (t : Tokenizer m) : List Bytes → Tokenizer m × List (Report m.Kind)
  | [] => (t, [])
  | buffer :: buffers =>
    match t.feed buffer with
    | (t, reports) =>
      match t.feedAll buffers with
      | (t, more) => (t, reports ++ more)

/-- Reads consecutive buffers, then declares the end of the input. -/
def finish (t : Tokenizer m) (buffers : List Bytes) : Tokenizer m × List (Report m.Kind) :=
  match t.feedAll buffers with
  | (t, reports) =>
    match t.flush with
    | (t, more) => (t, reports ++ more)

end Tokenizer

namespace Machine

variable (m : Machine)

/-- Everything a fresh tokenizer reports for an input that comes in the given buffers. -/
def reports (buffers : List Bytes) : List (Report m.Kind) :=
  ((Tokenizer.fresh m).finish buffers).2

/-- The events of an input that comes in the given buffers. -/
def events (buffers : List Bytes) : List (Event m.Kind) := Report.events (m.reports buffers)

/-- The merged events of an input read in one go. -/
def tokens (input : Bytes) : List (Event m.Kind) := Event.merged (m.events [input])

end Machine

end MarkupFeed
