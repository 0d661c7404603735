import MarkupFeed.Machine
import MarkupFeed.Bytes

/-!
# The output of compilers and linters

Lines look like `path:line[:column]: message`. What follows the file name and is no number
starts the message. A line that starts with a blank continues the message before it.
-/

namespace MarkupFeed.Diagnostics

/-- The token kinds. -/
inductive Kind where
  | error
  | filename
  | lineNum
  | message
  | separator
  deriving DecidableEq, Repr

instance : TokenKind Kind where
  error := .error
  title
    | .error => "err"
    | .filename => "filename"
    | .lineNum => "lineNum"
    | .message => "message"
    | .separator => "separator"

/-- Which part of the line comes next. -/
inductive Phase where
  | start
  | fileSeparator
  | line
  | lineSeparator
  | column
  | columnSeparator
  | message
  deriving DecidableEq, Repr

/-- The token in progress. -/
inductive Token where
  | idle
  | filename
  | number
  | message
  /-- A number with something else glued to it. -/
  | error
  /-- A colon, complete. -/
  | separator
  deriving DecidableEq, Repr

/-- What the machine remembers. -/
structure State where
  phase : Phase
  token : Token
  deriving DecidableEq, Repr

namespace Token

def kind : Token → Kind
  | idle | error => .error
  | filename => .filename
  | number => .lineNum
  | message => .message
  | separator => .separator

end Token

namespace Phase

/-- The phase after a colon, where the line may have one. -/
def afterSeparator? : Phase → Option Phase
  | fileSeparator => some line
  | lineSeparator => some column
  | columnSeparator => some message
  | _ => none

/-- The first octet of a token. -/
def lead (phase : Phase) (b : UInt8) : Step State :=
  match phase.afterSeparator?, b == ':'.toUInt8 with
  | some next, true => .accept ⟨next, .separator⟩
  | _, _ =>
    match phase with
    | start => .shift ⟨start, if Octet.isSpaceOrTab b then .message else .filename⟩
    | line | column => .shift ⟨phase, if Octet.isDigit b then .number else .message⟩
    | _ => .shift ⟨phase, .message⟩

end Phase

namespace State

def step (state : State) (b : UInt8) : Step State :=
  match state.token with
  | .idle => state.phase.lead b
  | .filename =>
    if b = ':'.toUInt8 then .reject { state with phase := .fileSeparator } else .shift state
  | .number =>
    if Octet.isDigit b then .shift state
    else if b = ':'.toUInt8 then
      .reject { state with
        phase := if state.phase = .line then .lineSeparator else .columnSeparator }
    else .shift { state with token := .error }
  | .message | .error => .shift state
  | .separator => .reject state

/-- The final kind of the token. A line without a colon is no diagnostic. -/
def finalKind (state : State) : Kind :=
  if state.token = .filename ∧ state.phase = .start then .error else state.token.kind

end State

/-- The machine. -/
def machine : Machine where
  Kind := Kind
  State := State
  start := ⟨.start, .idle⟩
  isIdle s := s.token == .idle
  kind s := s.token.kind
  step := State.step
  finish s := (s.finalKind, { s with token := .idle })
  newline s := { s with phase := .start }
  continuesLines := true
  isIdle_finish _ := rfl

end MarkupFeed.Diagnostics
