/-!
# Lexical rules as machines

The lexical rules of one text format, as a machine that reads one octet at a time.

A machine knows nothing of buffers, lines or positions. It says of each octet whether it
continues the current token (`Step.shift`), completes it (`Step.accept`) or belongs to the next
one (`Step.reject`), and it never fails: what it does not recognise becomes a token of the
format's error kind. Line ends, and the backslash that joins two lines, are the business of the
tokenizer that drives the machine; a machine only declares how its tokens take them
(`spansNewline`, `continuesLines`, `isEscaping`).

The one law a machine has to keep is that it is between tokens once a token has been closed
(`isIdle_finish`); it is what makes every drive over a buffer end.
-/

namespace MarkupFeed

/-- The closed set of token kinds of a format. Titles are published: they name the kinds in
markup. -/
class TokenKind (κ : Type) where
  /-- The kind of text the format does not recognise. -/
  error : κ
  /-- The published name of a kind. -/
  title : κ → String

/-- What a machine makes of an octet, with the state it is in afterwards. -/
inductive Step (σ : Type) where
  /-- The octet belongs to the current token, which goes on. -/
  | shift (next : σ)
  /-- The octet is the last one of the current token. -/
  | accept (next : σ)
  /-- The current token ended before the octet, which is still to be read. -/
  | reject (next : σ)
  deriving DecidableEq, Repr

/-- The lexical rules of a format. -/
structure Machine where
  /-- The token kinds of the format. -/
  Kind : Type
  /-- What the machine remembers between octets. -/
  State : Type
  [kindEq : DecidableEq Kind]
  [tokenKind : TokenKind Kind]
  /-- The state before any input. -/
  start : State
  /-- Whether the machine is between tokens. -/
  isIdle : State → Bool
  /-- The kind the token in progress would have if it ended well; provisional. -/
  kind : State → Kind
  /-- Reads an octet that is neither a line end nor part of a line continuation. -/
  step : State → UInt8 → Step State
  /-- Closes the token in progress: its final kind, and the state between tokens. -/
  finish : State → Kind × State
  /-- What a line end changes. -/
  newline : State → State := id
  /-- Whether the token in progress outlives a line end. -/
  spansNewline : State → Bool := fun _ => false
  /-- Whether a backslash before a line end joins the lines. -/
  continuesLines : Bool := false
  /-- Whether the next octet is escaped, so that a backslash there joins nothing. -/
  isEscaping : State → Bool := fun _ => false
  /-- For formats that read their input in two modes: whether the second one is on. -/
  mode : State → Option Bool := fun _ => none
  /-- A closed token leaves the machine between tokens. -/
  isIdle_finish : ∀ s, isIdle (finish s).2 = true

attribute [instance] Machine.kindEq Machine.tokenKind

end MarkupFeed
