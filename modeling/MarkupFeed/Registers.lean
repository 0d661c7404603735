import MarkupFeed.Registers.Cpp
import MarkupFeed.Format

/-!
# The machines on registers

The formats that read all of their input in one way have machines with nothing to remember between
tokens: `Format.machine` gives them a single state there. A program that keeps the state of a
machine in registers has more than one: what a register holds stays until the register is written
again. `Format.registers` is the machine of a format on registers, with each register written
where a program writes it: on the way into a phase, with the octet that needs it, or with the end
of the token.

C and C++ have a module of their own. The other three formats go through several modes, which
stay with their machines between tokens as it is.
-/

namespace MarkupFeed

/-! ### Free text -/

namespace Prose

/-- The registers: what the end of the word so far looks like, and the kind the word has by it. -/
structure Registers where
  phase : State := .idle
  kind : Kind := .error
  deriving DecidableEq, Repr

namespace Registers

def go (phase : State) (kind : Kind) : Step Registers := .shift ⟨phase, kind⟩

/-- An octet of plain text, which leaves the kind as it is. -/
def inWord (r : Registers) (b : UInt8) : Step Registers :=
  if b = '.'.toUInt8 then go .dot r.kind
  else if b = '/'.toUInt8 then go .slash r.kind
  else .shift { r with phase := .text }

def step (r : Registers) (b : UInt8) : Step Registers :=
  match r.phase with
  | .idle =>
    if Octet.isSpaceOrTab b then go .spaces .space else { r with kind := .text }.inWord b
  | .spaces => if Octet.isSpaceOrTab b then .shift r else .reject r
  | .text => if Octet.isSpaceOrTab b then .reject r else r.inWord b
  | .dot =>
    if Octet.isSpaceOrTab b || State.isParenthesis b then .reject r
    else if b = '.'.toUInt8 then go .dots r.kind
    else if b = '/'.toUInt8 then go .slash r.kind
    else go .filename .filename
  | .dots =>
    if Octet.isSpaceOrTab b then .reject r
    else if b = '/'.toUInt8 then go .slash r.kind
    else go .text .text
  | .slash =>
    if Octet.isSpaceOrTab b || State.isParenthesis b then .reject r
    else if b = '.'.toUInt8 then go .dot r.kind
    else if b = '/'.toUInt8 then go .text .text
    else go .filename .filename
  | .filename =>
    if Octet.isSpaceOrTab b || State.isParenthesis b then .reject r
    else if b = '.'.toUInt8 then go .dot .text
    else if b = '/'.toUInt8 then go .slash .text
    else .shift r

/-- The machine on registers. -/
def machine : Machine where
  Kind := Kind
  State := Registers
  start := {}
  isIdle r := r.phase == .idle
  kind := kind
  step := step
  finish r := (r.kind, {})
  isIdle_finish _ := rfl

end Registers

end Prose

/-! ### Markdown -/

namespace Markdown

namespace Registers

/-- What the start of the line has shown so far. -/
inductive Phase where
  | idle
  /-- After a leading `-`: a bullet, or the start of an underline. -/
  | dash
  /-- Two or more `-`. -/
  | dashes
  /-- One or more `=`. -/
  | equals
  /-- After a leading `*` or `+`. -/
  | bullet
  /-- Leading digits. -/
  | ordinal
  /-- Leading digits and `.` or `)`. -/
  | ordinalMark
  /-- The rest of the line, whatever it is. -/
  | line
  deriving DecidableEq, Repr

end Registers

/-- The registers. -/
structure Registers where
  phase : Registers.Phase := .idle
  kind : Kind := .error
  deriving DecidableEq, Repr

namespace Registers

/-- The registers after one more octet of the line. -/
def next (r : Registers) (b : UInt8) : Registers :=
  match r.phase with
  | .idle =>
    if b = '#'.toUInt8 then ⟨.line, .header⟩
    else if b = '-'.toUInt8 then ⟨.dash, .para⟩
    else if b = '='.toUInt8 then ⟨.equals, .header⟩
    else if Octet.among ['*', '+'] b then ⟨.bullet, .para⟩
    else if Octet.isDigit b then ⟨.ordinal, .para⟩
    else ⟨.line, .para⟩
  | .dash =>
    if b = '-'.toUInt8 then ⟨.dashes, .header⟩
    else if Octet.isSpaceOrTab b then ⟨.line, .listItem⟩
    else ⟨.line, .para⟩
  | .bullet | .ordinalMark =>
    if Octet.isSpaceOrTab b then ⟨.line, .listItem⟩ else ⟨.line, .para⟩
  | .dashes => if b = '-'.toUInt8 then r else ⟨.line, .para⟩
  | .equals => if b = '='.toUInt8 then r else ⟨.line, .para⟩
  | .ordinal =>
    if Octet.isDigit b then r
    else if Octet.among ['.', ')'] b then ⟨.ordinalMark, .para⟩
    else ⟨.line, .para⟩
  | .line => r

/-- The machine on registers. -/
def machine : Machine where
  Kind := Kind
  State := Registers
  start := {}
  isIdle r := r.phase == .idle
  kind := kind
  step r b := .shift (r.next b)
  finish r := (r.kind, {})
  isIdle_finish _ := rfl

end Registers

end Markdown

/-! ### Shell scripts -/

namespace Shell

namespace Registers

/-- Where in the script the token in progress stands. -/
inductive Phase where
  | idle
  | code
  /-- After a backslash outside quotes. -/
  | codeEscape
  | singleQuoted
  | doubleQuoted
  /-- After a backslash in double quotes. -/
  | doubleQuotedEscape
  | comment
  deriving DecidableEq, Repr

end Registers

/-- The registers. -/
structure Registers where
  phase : Registers.Phase := .idle
  kind : Kind := .error
  /-- Whether the octet of code read last ends a word. -/
  wordBreak : Bool := true
  deriving DecidableEq, Repr

namespace Registers

/-- An octet of code. One that begins a comment is left to it, and ends a word. -/
def inCode (r : Registers) (b : UInt8) : Step Registers :=
  if b = '#'.toUInt8 ∧ r.wordBreak then .reject { r with wordBreak := true }
  else
    let phase :=
      if b = Octet.backslash then .codeEscape
      else if b = '\''.toUInt8 then .singleQuoted
      else if b = '"'.toUInt8 then .doubleQuoted
      else .code
    .shift { r with phase, wordBreak := State.endsWord b }

def step (r : Registers) (b : UInt8) : Step Registers :=
  match r.phase with
  | .idle =>
    if b = '#'.toUInt8 then .shift { r with phase := .comment, kind := .comment }
    else { r with kind := .code, wordBreak := true }.inCode b
  | .code => r.inCode b
  | .codeEscape => .shift { r with phase := .code, wordBreak := false }
  | .singleQuoted => .shift (if b = '\''.toUInt8 then { r with phase := .code } else r)
  | .doubleQuoted =>
    let phase :=
      if b = '"'.toUInt8 then .code
      else if b = Octet.backslash then .doubleQuotedEscape
      else .doubleQuoted
    .shift { r with phase }
  | .doubleQuotedEscape => .shift { r with phase := .doubleQuoted }
  | .comment => .shift r

/-- Whether the token goes on after a line end. -/
def isQuoted (r : Registers) : Bool :=
  match r.phase with
  | .singleQuoted | .doubleQuoted | .doubleQuotedEscape => true
  | _ => false

/-- The machine on registers. -/
def machine : Machine where
  Kind := Kind
  State := Registers
  start := {}
  isIdle r := r.phase == .idle
  kind := kind
  step := step
  finish r := (r.kind, {})
  spansNewline := isQuoted
  isIdle_finish _ := rfl

end Registers

end Shell

/-! ### Reserved characters -/

namespace Escapes

/-- The registers: whether a run of data is in progress, and the kind of the reserved character
that was accepted last. -/
structure Registers where
  inData : Bool := false
  reserved : Option Kind := none
  deriving DecidableEq, Repr

namespace Registers

def kind (r : Registers) : Kind := r.reserved.getD .data

def step (r : Registers) (b : UInt8) : Step Registers :=
  match r.inData, Kind.reserved? b with
  | true, some _ => .reject r
  | true, none => .shift r
  | false, some kind => .accept { r with reserved := some kind }
  | false, none => .shift { r with inData := true }

/-- The machine on registers. -/
def machine : Machine where
  Kind := Kind
  State := Registers
  start := {}
  isIdle r := !r.inData && r.reserved.isNone
  kind := kind
  step := step
  finish r := (r.kind, {})
  isIdle_finish _ := rfl

end Registers

end Escapes

/-! ### By format -/

/-- The machine of a format on registers. -/
def Format.registers (style : Cpp.Style) : Format → Machine
  | cpp => Cpp.Registers.machine style
  | prose => Prose.Registers.machine
  | markdown => Markdown.Registers.machine
  | shell => Shell.Registers.machine
  | escapes => Escapes.Registers.machine
  | xml => Xml.machine
  | mail => Mail.machine
  | diagnostics => Diagnostics.machine

end MarkupFeed
