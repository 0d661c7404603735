import MarkupFeed.Machine
import MarkupFeed.Bytes

/-!
# The lines of Markdown

Classifies the lines of a Markdown text. Every line that is not empty is one
token: a header, a list item or (part of) a paragraph.
-/

namespace MarkupFeed.Markdown

/-- The token kinds. -/
inductive Kind where
  | error
  | header
  | listItem
  | para
  deriving DecidableEq, Repr

instance : TokenKind Kind where
  error := .error
  title
    | .error => "err"
    | .header => "header"
    | .listItem => "listItem"
    | .para => "para"

/-- What the start of the line has shown so far. -/
inductive State where
  | idle
  /-- After a leading `-`: a bullet, or the start of an underline. -/
  | dash
  /-- Two or more `-`. -/
  | dashes
  /-- One or more `=`. -/
  | equals
  /-- After a leading `*` or `+`. -/
  | bullet
  /-- Leading digits. -/
  | ordinal
  /-- Leading digits and `.` or `)`. -/
  | ordinalMark
  /-- The kind is settled; the rest of the line does not change it. -/
  | line (kind : Kind)
  deriving DecidableEq, Repr

namespace State

def kind : State → Kind
  | idle => .error
  | dashes | equals => .header
  | dash | bullet | ordinal | ordinalMark => .para
  | line kind => kind

/-- The state after one more octet of the line. -/
def next : State → UInt8 → State
  | idle, b =>
    if b = '#'.toUInt8 then line .header
    else if b = '-'.toUInt8 then dash
    else if b = '='.toUInt8 then equals
    else if Octet.among ['*', '+'] b then bullet
    else if Octet.isDigit b then ordinal
    else line .para
  | dash, b =>
    if b = '-'.toUInt8 then dashes else if Octet.isSpaceOrTab b then line .listItem else line .para
  | bullet, b | ordinalMark, b => if Octet.isSpaceOrTab b then line .listItem else line .para
  | dashes, b => if b = '-'.toUInt8 then dashes else line .para
  | equals, b => if b = '='.toUInt8 then equals else line .para
  | ordinal, b =>
    if Octet.isDigit b then ordinal
    else if Octet.among ['.', ')'] b then ordinalMark
    else line .para
  | line kind, _ => line kind

end State

/-- The machine. -/
def machine : Machine where
  Kind := Kind
  State := State
  start := .idle
  isIdle := (· == .idle)
  kind := State.kind
  step s b := .shift (s.next b)
  finish s := (s.kind, .idle)
  isIdle_finish _ := rfl

end MarkupFeed.Markdown
