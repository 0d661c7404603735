import MarkupFeed.Machine
import MarkupFeed.Bytes

/-!
# Reserved characters and the data between them

Text, split into the characters markup reserves and the data between them.
-/

namespace MarkupFeed.Escapes

/-- The token kinds. -/
inductive Kind where
  | error
  | ampersand
  | data
  | greater
  | less
  | quote
  deriving DecidableEq, Repr

instance : TokenKind Kind where
  error := .error
  title
    | .error => "err"
    | .ampersand => "ampEscape"
    | .data => "data"
    | .greater => "gtEscape"
    | .less => "ltEscape"
    | .quote => "quotEscape"

/-- The kind of a reserved character; all others are data. -/
def Kind.reserved? (b : UInt8) : Option Kind :=
  if b = '&'.toUInt8 then some .ampersand
  else if b = '<'.toUInt8 then some .less
  else if b = '>'.toUInt8 then some .greater
  else if b = '"'.toUInt8 then some .quote
  else none

/-- What the machine remembers. -/
inductive State where
  | idle
  /-- Inside a run of data. -/
  | data
  /-- After a reserved character. -/
  | reserved (kind : Kind)
  deriving DecidableEq, Repr

namespace State

def kind : State → Kind
  | reserved kind => kind
  | _ => .data

def step : State → UInt8 → Step State
  | data, b => if (Kind.reserved? b).isSome then .reject data else .shift data
  | state, b =>
    match Kind.reserved? b with
    | some kind => .accept (reserved kind)
    | none => if state = idle then .shift data else .reject state

end State

/-- The machine. -/
def machine : Machine where
  Kind := Kind
  State := State
  start := .idle
  isIdle := (· == .idle)
  kind := State.kind
  step := State.step
  finish s := (s.kind, .idle)
  isIdle_finish _ := rfl

end MarkupFeed.Escapes
