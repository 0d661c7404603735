import MarkupFeed.Format.Cpp

/-!
# The registers of the C and C++ machine

`Cpp.machine` takes what it remembers for one value, which is gone with its token. Here the same
rules are laid out on registers, as a program keeps them: the phase of the token, its kind so far,
the octets of a word, and the octet a literal ends with. A register keeps its value until it is
written again. The end of a token writes all of them but the last one, so the delimiter of one
literal is still there in all that is read after it; a word begins by appending to the word that
is there.

Reserved words are looked up in their table by halving it, as its order allows.
-/

namespace MarkupFeed.Cpp

/-! ### Looking up words -/

/-- Looks a word up in a table in ascending order: compares it with the word in the middle, and
goes on in one of the halves. -/
def isInTable (word : String) (table : List String) : Bool :=
  match hsplit : table.drop (table.length / 2) with
  | [] => false
  | pivot :: above =>
    if word = pivot then true
    else if word < pivot then isInTable word (table.take (table.length / 2))
    else isInTable word above
termination_by table.length
decreasing_by
  all_goals
    have hlength := congrArg List.length hsplit
    simp only [List.length_drop, List.length_cons] at hlength
    grind

namespace Registers

/-- Where the token in progress stands. -/
inductive Phase where
  | idle
  | identifier
  /-- After `L`, which may begin a wide literal. -/
  | wide
  /-- After a leading `0`. -/
  | zero
  | decimal
  | octal
  /-- Digits after a leading `0` with an `8` or `9` among them: only a float can come of it. -/
  | pendingFloat
  /-- After `0x`. -/
  | hexStart
  | hex
  | intSuffix
  | fraction
  /-- After the `e` of an exponent. -/
  | exponent
  | exponentSign
  | exponentDigits
  | quoted
  /-- After a backslash in quotes. -/
  | escape
  /-- Inside an octal escape with so many digits read. -/
  | octalEscape (digits : UInt8)
  /-- After `\x`. -/
  | hexEscapeStart
  | hexEscape
  /-- Inside a universal character name, with `seen` of the `needed` digits read. -/
  | universal (seen needed : UInt8)
  | colon
  | percent
  | minus
  /-- After `->`. -/
  | arrow
  /-- After a single character that may be followed by `second`. -/
  | twin (second : UInt8)
  /-- After a character that may be doubled or followed by `=`. -/
  | twinOrAssign (first : UInt8)
  | divide
  | lineComment
  | blockComment
  /-- After a `*` in a block comment. -/
  | blockCommentStar
  | greater
  /-- After `<<` or `>>`. -/
  | shiftOperator
  | less
  | dot
  /-- After `..`. -/
  | dots
  | spaces
  | tabs
  | error
  /-- The octet accepted last completed the token. -/
  | complete
  deriving DecidableEq, Repr

end Registers

/-- The registers. -/
structure Registers where
  phase : Registers.Phase := .idle
  /-- The provisional kind of the token. -/
  kind : Kind := .error
  /-- The octet that closes the literal in progress. -/
  delimiter : UInt8 := 0
  /-- The octets of the word in progress. -/
  word : Bytes := []
  deriving DecidableEq, Repr

namespace Registers

/-! ### Transitions -/

/-- Goes on with the token in another phase and with another kind. -/
def go (r : Registers) (phase : Phase) (kind : Kind) : Step Registers :=
  .shift { r with phase, kind }

/-- Takes the octet for the last one of a token of the given kind. -/
def accept (r : Registers) (kind : Kind) : Step Registers := .accept { r with kind }

/-- Turns the token into an error. A separator is left to the next token. -/
def fail (r : Registers) (b : UInt8) : Step Registers :=
  let failed := { r with kind := .error, phase := .error }
  if isSeparator b then .reject failed else .shift failed

/-- Begins the octets of a literal. -/
def quote (r : Registers) (delimiter : UInt8) (kind : Kind) : Step Registers :=
  { r with delimiter }.go .quoted kind

/-- The first octet of a token. -/
def lead (r : Registers) (b : UInt8) : Step Registers :=
  if b = 'L'.toUInt8 then { r with word := r.word ++ [b] }.go .wide .identifier
  else if Octet.isLetter b || b == '_'.toUInt8 then
    { r with word := r.word ++ [b] }.go .identifier .identifier
  else if b = '0'.toUInt8 then r.go .zero .decimalLiteral
  else if Octet.isDigit b then r.go .decimal .decimalLiteral
  else if b = '\''.toUInt8 then r.quote b .characterLiteral
  else if b = '"'.toUInt8 then r.quote b .stringLiteral
  else if Octet.among ['\x7b', '\x7d', '[', ']', '(', ')', ';', ','] b then r.accept .punctuator
  else if b = '?'.toUInt8 then r.accept .operator
  else if b = '#'.toUInt8 then r.go (.twin '#'.toUInt8) .preprocessing
  else if Octet.among ['*', '^', '~', '!', '='] b then r.go (.twin '='.toUInt8) .operator
  else if b = ':'.toUInt8 then r.go .colon .punctuator
  else if b = '%'.toUInt8 then r.go .percent .operator
  else if b = '-'.toUInt8 then r.go .minus .operator
  else if Octet.among ['+', '&', '|'] b then r.go (.twinOrAssign b) .operator
  else if b = '/'.toUInt8 then r.go .divide .operator
  else if b = '>'.toUInt8 then r.go .greater .operator
  else if b = '<'.toUInt8 then r.go .less .operator
  else if b = '.'.toUInt8 then r.go .dot .operator
  else if b = ' '.toUInt8 then r.go .spaces .space
  else if b = '\t'.toUInt8 then r.go .tabs .tab
  else .shift { r with kind := .error, phase := .error }

/-- An octet inside quotes, outside escapes. -/
def inQuotes (r : Registers) (b : UInt8) : Step Registers :=
  if b = Octet.backslash then .shift { r with phase := .escape }
  else if b = r.delimiter then .accept r
  else .shift r

/-- The octet after a backslash in quotes. -/
def inEscape (r : Registers) (b : UInt8) : Step Registers :=
  if Octet.among ['\'', '"', '?', '\\', 'a', 'b', 'f', 'n', 'r', 't', 'v'] b then
    .shift { r with phase := .quoted }
  else if Octet.isOctalDigit b then .shift { r with phase := .octalEscape 1 }
  else if b = 'x'.toUInt8 then .shift { r with phase := .hexEscapeStart }
  else if b = 'u'.toUInt8 then .shift { r with phase := .universal 0 4 }
  else if b = 'U'.toUInt8 then .shift { r with phase := .universal 0 8 }
  else r.fail b

/-- Ends a number, of the given kind if a separator follows. -/
def number (r : Registers) (b : UInt8) (separated : Kind) : Step Registers :=
  if isSeparator b then .reject { r with kind := separated } else r.fail b

/-- Goes on a number that may become a float or take an integer suffix, or ends it. -/
def inInteger (r : Registers) (b : UInt8) (kind : Kind) : Step Registers :=
  if b = '.'.toUInt8 then r.go .fraction .floatingLiteral
  else if isExponentMark b then r.go .exponent .floatingLiteral
  else if isIntSuffix b then r.go .intSuffix kind
  else r.number b kind

/-- Accepts one of the characters, or leaves the octet to the next token. -/
def acceptAmong (r : Registers) (chars : List Char) (b : UInt8) : Step Registers :=
  if Octet.among chars b then .accept r else .reject r

/-- Reads an octet; the phase of a token that it completes is left as it was. -/
def advance (r : Registers) (b : UInt8) : Step Registers :=
  match r.phase with
  | .complete => .reject r
  | .idle => r.lead b
  | .wide =>
    if b = '\''.toUInt8 then r.quote b .characterLiteral
    else if b = '"'.toUInt8 then r.quote b .stringLiteral
    else if isSeparator b then .reject r
    else .shift { r with word := r.word ++ [b], phase := .identifier }
  | .identifier => if isSeparator b then .reject r else .shift { r with word := r.word ++ [b] }
  | .zero =>
    if Octet.among ['x', 'X'] b then r.go .hexStart .hexadecimalLiteral
    else if Octet.isOctalDigit b then r.go .octal .octalLiteral
    else if Octet.isDigit b then r.go .pendingFloat .error
    else r.inInteger b .decimalLiteral
  | .octal =>
    if Octet.isOctalDigit b then .shift r
    else if Octet.isDigit b then r.go .pendingFloat .error
    else r.inInteger b .octalLiteral
  | .pendingFloat =>
    if Octet.isDigit b then .shift r
    else if b = '.'.toUInt8 then r.go .fraction .floatingLiteral
    else if isExponentMark b then r.go .exponent .floatingLiteral
    else r.number b .error
  | .decimal => if Octet.isDigit b then .shift r else r.inInteger b .decimalLiteral
  | .hexStart => if Octet.isHexDigit b then .shift { r with phase := .hex } else r.fail b
  | .hex =>
    if Octet.isHexDigit b then .shift r
    else if isIntSuffix b then r.go .intSuffix .hexadecimalLiteral
    else r.number b .hexadecimalLiteral
  | .intSuffix => if isIntSuffix b then .shift r else r.number b r.kind
  | .fraction =>
    if Octet.isDigit b then .shift r
    else if isExponentMark b then .shift { r with phase := .exponent }
    else if isFloatSuffix b then .accept r
    else r.number b .floatingLiteral
  | .exponent =>
    if Octet.isDigit b then .shift { r with phase := .exponentDigits }
    else if Octet.among ['+', '-'] b then .shift { r with phase := .exponentSign }
    else r.fail b
  | .exponentSign =>
    if Octet.isDigit b then .shift { r with phase := .exponentDigits } else r.fail b
  | .exponentDigits =>
    if Octet.isDigit b then .shift r
    else if isFloatSuffix b then .accept r
    else r.number b .floatingLiteral
  | .quoted => r.inQuotes b
  | .escape => r.inEscape b
  | .octalEscape digits =>
    if Octet.isOctalDigit b ∧ digits < 3 then
      .shift { r with phase := if digits = 2 then .quoted else .octalEscape (digits + 1) }
    else { r with phase := .quoted }.inQuotes b
  | .hexEscapeStart =>
    if Octet.isHexDigit b then .shift { r with phase := .hexEscape } else r.fail b
  | .hexEscape =>
    if Octet.isHexDigit b then .shift r else { r with phase := .quoted }.inQuotes b
  | .universal seen needed =>
    if Octet.isHexDigit b then
      .shift { r with phase := if seen + 1 = needed then .quoted else .universal (seen + 1) needed }
    else r.fail b
  | .colon => r.acceptAmong [':', '>'] b
  | .percent => r.acceptAmong ['>', ':', '='] b
  | .minus =>
    if b = '>'.toUInt8 then .shift { r with phase := .arrow } else r.acceptAmong ['-', '='] b
  | .arrow => r.acceptAmong ['*'] b
  | .twin second => if b = second then .accept r else .reject r
  | .twinOrAssign first => if b = first ∨ b = '='.toUInt8 then .accept r else .reject r
  | .divide =>
    if b = '/'.toUInt8 then r.go .lineComment .comment
    else if b = '*'.toUInt8 then r.go .blockComment .comment
    else r.acceptAmong ['='] b
  | .lineComment => .shift r
  | .blockComment => .shift (if b = '*'.toUInt8 then { r with phase := .blockCommentStar } else r)
  | .blockCommentStar =>
    if b = '/'.toUInt8 then .accept r
    else .shift (if b = '*'.toUInt8 then r else { r with phase := .blockComment })
  | .greater =>
    if b = '>'.toUInt8 then .shift { r with phase := .shiftOperator } else r.acceptAmong ['='] b
  | .shiftOperator => r.acceptAmong ['='] b
  | .less =>
    if b = '<'.toUInt8 then .shift { r with phase := .shiftOperator }
    else r.acceptAmong ['=', ':', '%'] b
  | .dot =>
    if b = '.'.toUInt8 then .shift { r with phase := .dots }
    else if Octet.isDigit b then r.go .fraction .floatingLiteral
    else r.acceptAmong ['*'] b
  | .dots => if b = '.'.toUInt8 then .accept r else r.fail b
  | .spaces => if b = ' '.toUInt8 then .shift r else .reject r
  | .tabs => if b = '\t'.toUInt8 then .shift r else .reject r
  | .error => if isSeparator b then .reject r else .shift r

/-- Marks a token that is accepted as complete. -/
def completed : Step Registers → Step Registers
  | .accept next => .accept { next with phase := .complete }
  | step => step

/-- Reads an octet. -/
def step (r : Registers) (b : UInt8) : Step Registers := completed (r.advance b)

/-! ### The end of a token -/

/-- The kind of the word in its register. -/
def classify (style : Style) (word : Bytes) : Kind :=
  match Utf8.decode? word with
  | none => .unstyledIdentifier
  | some text =>
    if isInTable text keywords then
      if text = "true" ∨ text = "false" then .booleanLiteral else .keyword
    else if style text then .identifier
    else .unstyledIdentifier

/-- The kind of the token if it ends here. -/
def finalKind (style : Style) (r : Registers) : Kind :=
  match r.phase with
  | .identifier | .wide => classify style r.word
  | .quoted | .escape | .octalEscape _ | .hexEscapeStart | .hexEscape | .universal .. | .hexStart
  | .exponent | .exponentSign | .dots | .pendingFloat => .error
  | _ => r.kind

/-- Whether the token goes on after a line end. -/
def isBlockComment (r : Registers) : Bool :=
  match r.phase with
  | .blockComment | .blockCommentStar => true
  | _ => false

/-- What a line end changes. -/
def newline (r : Registers) : Registers :=
  if r.phase = .blockCommentStar then { r with phase := .blockComment } else r

/-- The machine on registers, for a naming style. The delimiter outlives the token. -/
def machine (style : Style) : Machine where
  Kind := Kind
  State := Registers
  start := {}
  isIdle r := r.phase == .idle
  kind := kind
  step := step
  finish r := (r.finalKind style, { r with phase := .idle, kind := .error, word := [] })
  newline := newline
  spansNewline := isBlockComment
  continuesLines := true
  isEscaping r := r.phase == .escape
  isIdle_finish _ := rfl

end Registers

end MarkupFeed.Cpp
