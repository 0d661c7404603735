import MarkupFeed.Machine
import MarkupFeed.Bytes

/-!
# Shell scripts and their comments

Separates the comments of shell scripts, and of other text commented with `#`,
from the code.

A `#` starts a comment where it begins a word outside quotes. Quoted strings may span lines; a
backslash escapes the next octet outside single quotes.
-/

namespace MarkupFeed.Shell

/-- The token kinds. -/
inductive Kind where
  | error
  | comment
  | code
  deriving DecidableEq, Repr

instance : TokenKind Kind where
  error := .error
  title
    | .error => "err"
    | .comment => "comment"
    | .code => "code"

/-- What the machine remembers. -/
inductive State where
  | idle
  /-- Outside quotes; `wordBreak` tells whether the next octet begins a word. -/
  | code (wordBreak : Bool)
  /-- After a backslash outside quotes. -/
  | codeEscape
  | singleQuoted
  | doubleQuoted
  /-- After a backslash in double quotes. -/
  | doubleQuotedEscape
  | comment
  deriving DecidableEq, Repr

namespace State

/-- Whether a word ends with the octet. -/
def endsWord (b : UInt8) : Bool := Octet.among [' ', '\t', ';', '|', '&', '(', ')'] b

/-- The state after an octet of code that starts no comment. -/
def afterCode (b : UInt8) : State :=
  if b = Octet.backslash then codeEscape
  else if b = '\''.toUInt8 then singleQuoted
  else if b = '"'.toUInt8 then doubleQuoted
  else code (endsWord b)

def kind : State → Kind
  | idle => .error
  | comment => .comment
  | _ => .code

def step : State → UInt8 → Step State
  | idle, b => .shift (if b = '#'.toUInt8 then comment else afterCode b)
  | code wordBreak, b =>
    if wordBreak && b == '#'.toUInt8 then .reject (code wordBreak) else .shift (afterCode b)
  | codeEscape, _ => .shift (code false)
  | singleQuoted, b => .shift (if b = '\''.toUInt8 then code false else singleQuoted)
  | doubleQuoted, b =>
    .shift (if b = '"'.toUInt8 then code false
      else if b = Octet.backslash then doubleQuotedEscape
      else doubleQuoted)
  | doubleQuotedEscape, _ => .shift doubleQuoted
  | comment, _ => .shift comment

/-- Whether the token goes on after a line end. -/
def isQuoted : State → Bool
  | singleQuoted | doubleQuoted | doubleQuotedEscape => true
  | _ => false

end State

/-- The machine. -/
def machine : Machine where
  Kind := Kind
  State := State
  start := .idle
  isIdle := (· == .idle)
  kind := State.kind
  step := State.step
  finish s := (s.kind, .idle)
  spansNewline := State.isQuoted
  isIdle_finish _ := rfl

end MarkupFeed.Shell
