import MarkupFeed.Machine
import MarkupFeed.Text.Utf8

/-!
# C and C++ source

Tokens only: literals, identifiers, operators, comments; no grammar is laid over them.

A leading `0` may begin many things. The machine follows the longest transition and settles the
kind when the token ends, so that `09` is an error but `09.5` a floating literal. Characters and
strings share their states, which carry the closing quote; escape sequences are checked, and a
malformed one turns the token into an error that runs to the next separator. Identifiers are
classified when they end: first by the keyword table, then by a naming style.
-/

namespace MarkupFeed.Cpp

/-- The token kinds. -/
inductive Kind where
  | error
  | booleanLiteral
  | characterLiteral
  | floatingLiteral
  | decimalLiteral
  | octalLiteral
  | hexadecimalLiteral
  | identifier
  /-- An identifier that does not follow the naming style. -/
  | unstyledIdentifier
  | keyword
  | operator
  | punctuator
  | comment
  | space
  | tab
  | preprocessing
  | stringLiteral
  deriving DecidableEq, Repr

instance : TokenKind Kind where
  error := .error
  title
    | .error => "err"
    | .booleanLiteral => "booleanLiteral"
    | .characterLiteral => "characterLiteral"
    | .floatingLiteral => "floatingLiteral"
    | .decimalLiteral => "decimalLiteral"
    | .octalLiteral => "octalLiteral"
    | .hexadecimalLiteral => "hexadecimalLiteral"
    | .identifier => "identifier"
    | .unstyledIdentifier => "unstyledIdentifier"
    | .keyword => "keyword"
    | .operator => "operator"
    | .punctuator => "punctuator"
    | .comment => "comment"
    | .space => "space"
    | .tab => "tab"
    | .preprocessing => "preprocessing"
    | .stringLiteral => "stringLiteral"

/-! ### Words -/

/-- The reserved words, among them the two boolean literals. -/
def keywords : List String :=
  ["alignas", "alignof", "asm", "auto", "bool", "break", "case", "catch", "char", "char16_t",
   "char32_t", "class", "const", "const_cast", "constexpr", "continue", "decltype", "default",
   "delete", "do", "double", "dynamic_cast", "else", "enum", "explicit", "export", "extern",
   "false", "float", "for", "friend", "goto", "if", "inline", "int", "long", "mutable",
   "namespace", "new", "noexcept", "nullptr", "operator", "private", "protected", "public",
   "register", "reinterpret_cast", "return", "short", "signed", "sizeof", "static",
   "static_assert", "static_cast", "struct", "switch", "template", "this", "thread_local",
   "throw", "true", "try", "typedef", "typeid", "typename", "union", "unsigned", "using",
   "virtual", "void", "volatile", "wchar_t", "while"]

/-- A naming style: the identifiers that follow it. -/
abbrev Style := String → Bool

/-- The kind of a word. Words that are not text in UTF-8 follow no style. -/
def classify (style : Style) (word : Bytes) : Kind :=
  match Utf8.decode? word with
  | none => .unstyledIdentifier
  | some text =>
    if text ∈ keywords then
      if text = "true" ∨ text = "false" then .booleanLiteral else .keyword
    else if style text then .identifier
    else .unstyledIdentifier

/-! ### States -/

/-- A literal in quotes. -/
inductive Quote where
  | character
  | string
  deriving DecidableEq, Repr

namespace Quote

/-- The octet that opens and closes the literal. -/
def delimiter : Quote → UInt8
  | character => '\''.toUInt8
  | string => '"'.toUInt8

def kind : Quote → Kind
  | character => .characterLiteral
  | string => .stringLiteral

end Quote

/-- The token in progress. -/
inductive State where
  | idle
  /-- A word; its octets are kept for classification. -/
  | identifier (word : Bytes)
  /-- After `L`, which may begin a wide literal. -/
  | wide
  /-- After a leading `0`. -/
  | zero
  | decimal
  | octal
  /-- Digits after a leading `0` with an `8` or `9` among them: only a float can come of it. -/
  | pendingFloat
  /-- After `0x`. -/
  | hexStart
  | hex
  /-- After the suffix of an integer of the given kind. -/
  | intSuffix (kind : Kind)
  | fraction
  /-- After the `e` of an exponent. -/
  | exponent
  | exponentSign
  | exponentDigits
  | quoted (quote : Quote)
  /-- After a backslash in quotes. -/
  | escape (quote : Quote)
  /-- Inside an octal escape that `room` more digits fit into. -/
  | octalEscape (quote : Quote) (room : Nat)
  /-- After `\x`. -/
  | hexEscapeStart (quote : Quote)
  | hexEscape (quote : Quote)
  /-- Inside a universal character name that lacks `missing + 1` digits. -/
  | universal (quote : Quote) (missing : Nat)
  | colon
  | percent
  | minus
  /-- After `->`. -/
  | arrow
  /-- After a single character that may be followed by `=`. -/
  | mayAssign
  /-- After `#`. -/
  | hash
  /-- After a character that may be doubled or followed by `=`. -/
  | mayDoubleOrAssign (first : UInt8)
  | divide
  | lineComment
  | blockComment
  /-- After a `*` in a block comment. -/
  | blockCommentStar
  | greater
  /-- After `<<` or `>>`. -/
  | shiftOperator
  | less
  | dot
  /-- After `..`. -/
  | dots
  | spaces
  | tabs
  | error
  /-- A complete token. -/
  | complete (kind : Kind)
  deriving DecidableEq, Repr

/-- Octets that end a word, a number or an error. -/
def isSeparator (b : UInt8) : Bool :=
  Octet.among [' ', '\t', '\n', '\r', '\'', '"', '\x7b', '\x7d', '[', ']', '(', ')', ';', ',', '#',
    '*', '^', '~', '!', '=', ':', '%', '-', '+', '&', '|', '/', '<', '>', '.', '?'] b

/-- Suffixes of floating literals. -/
def isFloatSuffix (b : UInt8) : Bool := Octet.among ['f', 'F', 'l', 'L'] b

/-- Suffixes of integer literals. -/
def isIntSuffix (b : UInt8) : Bool := Octet.among ['u', 'U', 'l', 'L'] b

/-- The start of an exponent. -/
def isExponentMark (b : UInt8) : Bool := Octet.among ['e', 'E'] b

namespace State

/-- The provisional kind of the token. -/
def kind : State → Kind
  | idle | pendingFloat | error => .error
  | identifier _ | wide => .identifier
  | zero | decimal => .decimalLiteral
  | octal => .octalLiteral
  | hexStart | hex => .hexadecimalLiteral
  | intSuffix kind => kind
  | fraction | exponent | exponentSign | exponentDigits => .floatingLiteral
  | quoted quote | escape quote | octalEscape quote _ | hexEscapeStart quote | hexEscape quote
  | universal quote _ => quote.kind
  | colon => .punctuator
  | hash => .preprocessing
  | percent | minus | arrow | mayAssign | mayDoubleOrAssign _ | divide | greater | shiftOperator
  | less | dot | dots => .operator
  | lineComment | blockComment | blockCommentStar => .comment
  | spaces => .space
  | tabs => .tab
  | complete kind => kind

/-- The kind of the token if it ends here. -/
def finalKind (style : Style) : State → Kind
  | identifier word => classify style word
  | wide => classify style ['L'.toUInt8]
  | quoted _ | escape _ | octalEscape .. | hexEscapeStart _ | hexEscape _ | universal ..
  | hexStart | exponent | exponentSign | dots | pendingFloat => .error
  | state => state.kind

/-! ### Transitions -/

/-- Turns the token into an error. A separator is left to the next token. -/
def fail (b : UInt8) : Step State := if isSeparator b then .reject error else .shift error

/-- Ends a number. Anything but a separator glued to it makes it an error. -/
def endNumber (number : State) (b : UInt8) : Step State :=
  if isSeparator b then .reject number else .shift error

/-- The first octet of a token. -/
def lead (b : UInt8) : Step State :=
  if b = 'L'.toUInt8 then .shift wide
  else if Octet.isLetter b || b == '_'.toUInt8 then .shift (identifier [b])
  else if b = '0'.toUInt8 then .shift zero
  else if Octet.isDigit b then .shift decimal
  else if b = Quote.character.delimiter then .shift (quoted .character)
  else if b = Quote.string.delimiter then .shift (quoted .string)
  else if Octet.among ['\x7b', '\x7d', '[', ']', '(', ')', ';', ','] b then
    .accept (complete .punctuator)
  else if b = '?'.toUInt8 then .accept (complete .operator)
  else if b = '#'.toUInt8 then .shift hash
  else if Octet.among ['*', '^', '~', '!', '='] b then .shift mayAssign
  else if b = ':'.toUInt8 then .shift colon
  else if b = '%'.toUInt8 then .shift percent
  else if b = '-'.toUInt8 then .shift minus
  else if Octet.among ['+', '&', '|'] b then .shift (mayDoubleOrAssign b)
  else if b = '/'.toUInt8 then .shift divide
  else if b = '>'.toUInt8 then .shift greater
  else if b = '<'.toUInt8 then .shift less
  else if b = '.'.toUInt8 then .shift dot
  else if b = ' '.toUInt8 then .shift spaces
  else if b = '\t'.toUInt8 then .shift tabs
  else .shift error

/-- An octet inside quotes, outside escapes. -/
def inQuotes (quote : Quote) (b : UInt8) : Step State :=
  if b = Octet.backslash then .shift (escape quote)
  else if b = quote.delimiter then .accept (complete quote.kind)
  else .shift (quoted quote)

/-- The octet after a backslash in quotes. -/
def inEscape (quote : Quote) (b : UInt8) : Step State :=
  if Octet.among ['\'', '"', '?', '\\', 'a', 'b', 'f', 'n', 'r', 't', 'v'] b then
    .shift (quoted quote)
  else if Octet.isOctalDigit b then .shift (octalEscape quote 2)
  else if b = 'x'.toUInt8 then .shift (hexEscapeStart quote)
  else if b = 'u'.toUInt8 then .shift (universal quote 3)
  else if b = 'U'.toUInt8 then .shift (universal quote 7)
  else fail b

/-- An octet that goes on a number with a point or an exponent, if it does. -/
def toFloat? (b : UInt8) : Option State :=
  if b = '.'.toUInt8 then some fraction
  else if isExponentMark b then some exponent
  else none

/-- Goes on a number that may still become a float or take an integer suffix. -/
def inInteger (number : State) (b : UInt8) : Step State :=
  match toFloat? b with
  | some next => .shift next
  | none => if isIntSuffix b then .shift (intSuffix number.kind) else endNumber number b

/-- Accepts one of the characters, or leaves the octet to the next token. -/
def acceptAmong (state : State) (chars : List Char) (b : UInt8) : Step State :=
  if Octet.among chars b then .accept (complete state.kind) else .reject state

def step (state : State) (b : UInt8) : Step State :=
  match state with
  | idle => lead b
  | identifier word => if isSeparator b then .reject state else .shift (identifier (word ++ [b]))
  | wide =>
    if b = Quote.character.delimiter then .shift (quoted .character)
    else if b = Quote.string.delimiter then .shift (quoted .string)
    else if isSeparator b then .reject wide
    else .shift (identifier ['L'.toUInt8, b])
  | zero =>
    if Octet.among ['x', 'X'] b then .shift hexStart
    else if Octet.isOctalDigit b then .shift octal
    else if Octet.isDigit b then .shift pendingFloat
    else inInteger zero b
  | octal =>
    if Octet.isOctalDigit b then .shift octal
    else if Octet.isDigit b then .shift pendingFloat
    else inInteger octal b
  | pendingFloat =>
    if Octet.isDigit b then .shift pendingFloat
    else
      match toFloat? b with
      | some next => .shift next
      | none => endNumber pendingFloat b
  | decimal => if Octet.isDigit b then .shift decimal else inInteger decimal b
  | hexStart => if Octet.isHexDigit b then .shift hex else fail b
  | hex =>
    if Octet.isHexDigit b then .shift hex
    else if isIntSuffix b then .shift (intSuffix .hexadecimalLiteral)
    else endNumber hex b
  | intSuffix kind => if isIntSuffix b then .shift (intSuffix kind) else endNumber state b
  | fraction =>
    if Octet.isDigit b then .shift fraction
    else if isExponentMark b then .shift exponent
    else if isFloatSuffix b then .accept (complete .floatingLiteral)
    else endNumber fraction b
  | exponent =>
    if Octet.isDigit b then .shift exponentDigits
    else if Octet.among ['+', '-'] b then .shift exponentSign
    else fail b
  | exponentSign => if Octet.isDigit b then .shift exponentDigits else fail b
  | exponentDigits =>
    if Octet.isDigit b then .shift exponentDigits
    else if isFloatSuffix b then .accept (complete .floatingLiteral)
    else endNumber exponentDigits b
  | quoted quote => inQuotes quote b
  | escape quote => inEscape quote b
  | octalEscape quote room =>
    if Octet.isOctalDigit b then
      .shift (if room = 1 then quoted quote else octalEscape quote (room - 1))
    else inQuotes quote b
  | hexEscapeStart quote => if Octet.isHexDigit b then .shift (hexEscape quote) else fail b
  | hexEscape quote => if Octet.isHexDigit b then .shift (hexEscape quote) else inQuotes quote b
  | universal quote missing =>
    if Octet.isHexDigit b then
      .shift (match missing with
        | 0 => quoted quote
        | missing + 1 => universal quote missing)
    else fail b
  | colon => colon.acceptAmong [':', '>'] b
  | percent => percent.acceptAmong ['>', ':', '='] b
  | minus => if b = '>'.toUInt8 then .shift arrow else minus.acceptAmong ['-', '='] b
  | arrow => arrow.acceptAmong ['*'] b
  | mayAssign => mayAssign.acceptAmong ['='] b
  | hash => hash.acceptAmong ['#'] b
  | mayDoubleOrAssign first =>
    if b = first ∨ b = '='.toUInt8 then .accept (complete .operator) else .reject state
  | divide =>
    if b = '/'.toUInt8 then .shift lineComment
    else if b = '*'.toUInt8 then .shift blockComment
    else divide.acceptAmong ['='] b
  | lineComment => .shift lineComment
  | blockComment => .shift (if b = '*'.toUInt8 then blockCommentStar else blockComment)
  | blockCommentStar =>
    if b = '/'.toUInt8 then .accept (complete .comment)
    else .shift (if b = '*'.toUInt8 then blockCommentStar else blockComment)
  | greater => if b = '>'.toUInt8 then .shift shiftOperator else greater.acceptAmong ['='] b
  | shiftOperator => shiftOperator.acceptAmong ['='] b
  | less => if b = '<'.toUInt8 then .shift shiftOperator else less.acceptAmong ['=', ':', '%'] b
  | dot =>
    if b = '.'.toUInt8 then .shift dots
    else if Octet.isDigit b then .shift fraction
    else dot.acceptAmong ['*'] b
  | dots => if b = '.'.toUInt8 then .accept (complete .operator) else fail b
  | spaces => if b = ' '.toUInt8 then .shift spaces else .reject spaces
  | tabs => if b = '\t'.toUInt8 then .shift tabs else .reject tabs
  | error => if isSeparator b then .reject error else .shift error
  | complete _ => .reject state

/-- Whether the token goes on after a line end. -/
def isBlockComment : State → Bool
  | blockComment | blockCommentStar => true
  | _ => false

/-- Whether the next octet is escaped. -/
def isEscape : State → Bool
  | escape _ => true
  | _ => false

/-- The state after a line end: a `*/` cannot be split by one. -/
def newline : State → State
  | blockCommentStar => blockComment
  | state => state

end State

/-- The machine, for a naming style. -/
def machine (style : Style) : Machine where
  Kind := Kind
  State := State
  start := .idle
  isIdle := (· == .idle)
  kind := State.kind
  step := State.step
  finish s := (s.finalKind style, .idle)
  newline := State.newline
  spansNewline := State.isBlockComment
  continuesLines := true
  isEscaping := State.isEscape
  isIdle_finish _ := rfl

end MarkupFeed.Cpp
