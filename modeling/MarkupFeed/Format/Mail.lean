import MarkupFeed.Machine
import MarkupFeed.Bytes

/-!
# Mail messages

Mail messages, possibly several of them in one mailbox.

A header line is split into field name, colon and field body; one that starts with a blank is a
further field body of the field before it. The first empty line switches to the body, which is
reported a line at a time. A line that starts with `From ` separates two messages, in the headers
as well as in the body, and the lines after it are headers again.
-/

namespace MarkupFeed.Mail

/-- The token kinds. -/
inductive Kind where
  | error
  | fieldName
  | colon
  | fieldBody
  | messageBody
  /-- The line that separates two messages. -/
  | messageBreak
  deriving DecidableEq, Repr

instance : TokenKind Kind where
  error := .error
  title
    | .error => "err"
    | .fieldName => "fieldName"
    | .colon => "colon"
    | .fieldBody => "fieldBody"
    | .messageBody => "messageBody"
    | .messageBreak => "messageBreak"

/-- The two parts of a message. -/
inductive Mode where
  | headers
  | body
  deriving DecidableEq, Repr

/-- The token in progress. -/
inductive Token where
  | idle
  /-- At the start of a line that goes on like `From ` so far; `rest` is what would make it a
  message break. -/
  | separator (rest : List Char)
  | breakLine
  | fieldName
  | fieldBody
  | body
  | error
  /-- A complete token. -/
  | complete (kind : Kind)
  deriving DecidableEq, Repr

/-- What the machine remembers. -/
structure State where
  mode : Mode
  /-- Whether nothing of the line has been read yet. -/
  lineStart : Bool
  token : Token
  deriving DecidableEq, Repr

/-- Printable ASCII except the colon, as field names are made of. -/
def isFieldNameOctet (b : UInt8) : Bool := Octet.within '!' '~' b && b != ':'.toUInt8

namespace State

/-- The provisional kind of the token. -/
def kind (state : State) : Kind :=
  match state.token with
  | .idle | .error => .error
  | .separator _ => if state.mode = .headers then .fieldName else .messageBody
  | .breakLine => .messageBreak
  | .fieldName => .fieldName
  | .fieldBody => .fieldBody
  | .body => .messageBody
  | .complete kind => kind

/-- The first octet of a token. -/
def lead (state : State) (b : UInt8) : Step State :=
  let next (token : Token) : State := { state with lineStart := false, token }
  if state.lineStart && b == 'F'.toUInt8 then .shift (next (.separator ['r', 'o', 'm', ' ']))
  else
    match state.mode with
    | .body => .shift (next .body)
    | .headers =>
      if state.lineStart then
        if Octet.isSpaceOrTab b then .shift (next .fieldBody)
        else if isFieldNameOctet b then .shift (next .fieldName)
        else .shift (next .error)
      else if b = ':'.toUInt8 then .accept (next (.complete .colon))
      else .shift (next .fieldBody)

/-- A further octet of a field name. -/
def inFieldName (state : State) (b : UInt8) : Step State :=
  if b = ':'.toUInt8 then .reject { state with token := .complete .fieldName }
  else if isFieldNameOctet b then .shift { state with token := .fieldName }
  else .shift { state with token := .error }

def step (state : State) (b : UInt8) : Step State :=
  match state.token with
  | .idle => state.lead b
  | .separator [] => .shift state
  | .separator (c :: rest) =>
    if b = c.toUInt8 then
      .shift { state with token := if rest.isEmpty then .breakLine else .separator rest }
    else if state.mode = .headers then state.inFieldName b
    else .shift { state with token := .body }
  | .fieldName => state.inFieldName b
  | .error => if b = ':'.toUInt8 then .reject state else .shift state
  | .breakLine | .fieldBody | .body => .shift state
  | .complete _ => .reject state

/-- Closes the token. A field name that never got its colon is an error; a message break switches
to the headers. -/
def finish (state : State) : Kind × State :=
  let closed := { state with token := .idle }
  match state.token, state.mode with
  | .separator _, .headers | .fieldName, .headers => (.error, closed)
  | .breakLine, _ => (.messageBreak, { closed with mode := .headers })
  | _, _ => (state.kind, closed)

/-- A line end. An empty line ends the headers. -/
def newline (state : State) : State :=
  { state with
    mode := if state.lineStart then .body else state.mode
    lineStart := true }

end State

/-- The machine. -/
def machine : Machine where
  Kind := Kind
  State := State
  start := ⟨.headers, true, .idle⟩
  isIdle s := s.token == .idle
  kind := State.kind
  step := State.step
  finish := State.finish
  newline := State.newline
  mode s := some (s.mode == .body)
  isIdle_finish s := by
    obtain ⟨mode, _, token⟩ := s
    cases token <;> cases mode <;> rfl

end MarkupFeed.Mail
