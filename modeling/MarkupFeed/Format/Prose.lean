import MarkupFeed.Machine
import MarkupFeed.Bytes

/-!
# Free text that mentions files

Words are separated by spaces and tabs. A word is a file name once it has a dot or a directory
separator with at least one more character after it, as in `bar.txt` or `src/main`; one that
ends on the separator (`end.`, `dir/`) stays text. A parenthesis ends a file name.
-/

namespace MarkupFeed.Prose

/-- The token kinds. -/
inductive Kind where
  | error
  | filename
  | space
  | text
  deriving DecidableEq, Repr

instance : TokenKind Kind where
  error := .error
  title
    | .error => "err"
    | .filename => "filename"
    | .space => "space"
    | .text => "text"

/-- What the end of the word so far looks like. -/
inductive State where
  | idle
  | spaces
  | text
  /-- After a `.`. -/
  | dot
  /-- After `..`. -/
  | dots
  /-- After a `/`. -/
  | slash
  | filename
  deriving DecidableEq, Repr

namespace State

def kind : State → Kind
  | idle => .error
  | spaces => .space
  | filename => .filename
  | text | dot | dots | slash => .text

/-- The state after an octet of plain text. -/
def afterText (b : UInt8) : State :=
  if b = '.'.toUInt8 then dot else if b = '/'.toUInt8 then slash else text

def isParenthesis (b : UInt8) : Bool := Octet.among ['(', ')'] b

def step (state : State) (b : UInt8) : Step State :=
  match state with
  | idle => .shift (if Octet.isSpaceOrTab b then spaces else afterText b)
  | spaces => if Octet.isSpaceOrTab b then .shift spaces else .reject spaces
  | text => if Octet.isSpaceOrTab b then .reject text else .shift (afterText b)
  | dot =>
    if Octet.isSpaceOrTab b || isParenthesis b then .reject dot
    else if b = '.'.toUInt8 then .shift dots
    else if b = '/'.toUInt8 then .shift slash
    else .shift filename
  | dots =>
    if Octet.isSpaceOrTab b then .reject dots
    else if b = '/'.toUInt8 then .shift slash
    else .shift text
  | slash =>
    if Octet.isSpaceOrTab b || isParenthesis b then .reject slash
    else if b = '.'.toUInt8 then .shift dot
    else if b = '/'.toUInt8 then .shift text
    else .shift filename
  | filename =>
    if Octet.isSpaceOrTab b || isParenthesis b then .reject filename
    else if b = '.'.toUInt8 then .shift dot
    else if b = '/'.toUInt8 then .shift slash
    else .shift filename

end State

/-- The machine. -/
def machine : Machine where
  Kind := Kind
  State := State
  start := .idle
  isIdle := (· == .idle)
  kind := State.kind
  step := State.step
  finish s := (s.kind, .idle)
  isIdle_finish _ := rfl

end MarkupFeed.Prose
