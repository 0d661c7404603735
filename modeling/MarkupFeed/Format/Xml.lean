import MarkupFeed.Machine
import MarkupFeed.Bytes

/-!
# XML and HTML markup

The machine alternates between content, where all up to the next `<` is character data, and the
inside of tags, which `<`, `</`, `<?` and `<!` enter and `>`, `/>` and `?>` leave. Comments and
quoted attribute values may span lines. Entities are not resolved, and well-formedness is not
checked beyond single tokens.
-/

namespace MarkupFeed.Xml

/-- The token kinds. -/
inductive Kind where
  | error
  /-- `=` -/
  | assign
  | attValue
  /-- `>` -/
  | closeTag
  | comment
  | content
  /-- `?>` -/
  | declEnd
  /-- `<?` or `<!` -/
  | declStart
  /-- `</` -/
  | elementEnd
  /-- `<` -/
  | elementStart
  /-- `/>` -/
  | emptyElementEnd
  | name
  | space
  deriving DecidableEq, Repr

instance : TokenKind Kind where
  error := .error
  title
    | .error => "err"
    | .assign => "assign"
    | .attValue => "attValue"
    | .closeTag => "closeTag"
    | .comment => "comment"
    | .content => "content"
    | .declEnd => "declEnd"
    | .declStart => "declStart"
    | .elementEnd => "elementEnd"
    | .elementStart => "elementStart"
    | .emptyElementEnd => "emptyElementEnd"
    | .name => "name"
    | .space => "space"

/-- The token in progress. -/
inductive Token where
  | idle
  | content
  /-- After `<`. -/
  | less
  /-- After `<!`. -/
  | bang
  /-- After `<!-`. -/
  | bangDash
  | comment
  /-- After a `-` in a comment. -/
  | commentDash
  /-- After two or more `-` in a comment. -/
  | commentDashes
  | name
  | spaces
  /-- Inside a value that the octet `quote` closes. -/
  | attValue (quote : UInt8)
  /-- After `/` in a tag. -/
  | slash
  /-- After `?` in a tag. -/
  | question
  | error
  /-- A complete token. -/
  | complete (kind : Kind)
  deriving DecidableEq, Repr

/-- What the machine remembers. -/
structure State where
  /-- Whether a tag is open. -/
  inTag : Bool
  token : Token
  deriving DecidableEq, Repr

/-- Octets of names: letters, digits, `_`, `:`, `-`, `.`, and everything beyond ASCII. -/
def isNameOctet (b : UInt8) : Bool :=
  Octet.isLetter b || Octet.isDigit b || Octet.among ['_', ':', '-', '.'] b || 0x80 ≤ b

/-- Octets that end an error. -/
def isSeparator (b : UInt8) : Bool :=
  Octet.among [' ', '\t', '\n', '\r', '<', '>', '=', '/', '"', '\''] b

namespace Token

/-- The provisional kind of the token. -/
def kind : Token → Kind
  | idle | error => .error
  | content => .content
  | less => .elementStart
  | bang | bangDash => .declStart
  | comment | commentDash | commentDashes => .comment
  | name => .name
  | spaces => .space
  | attValue _ => .attValue
  | slash => .emptyElementEnd
  | question => .declEnd
  | complete kind => kind

/-- The kind of the token if it ends here. What its closing octets are missing from is an error. -/
def finalKind : Token → Kind
  | comment | commentDash | commentDashes | attValue _ | bangDash | slash | question => .error
  | token => token.kind

/-- Whether the token goes on after a line end. -/
def spansNewline : Token → Bool
  | comment | commentDash | commentDashes | attValue _ => true
  | _ => false

/-- The token after a line end: a `-->` cannot be split by one. -/
def newline : Token → Token
  | commentDash | commentDashes => comment
  | token => token

end Token

namespace State

/-- Turns the token into an error. A separator is left to the next token. -/
def fail (state : State) (b : UInt8) : Step State :=
  let state := { state with token := .error }
  if isSeparator b then .reject state else .shift state

/-- The first octet of a token. -/
def lead (state : State) (b : UInt8) : Step State :=
  let next (token : Token) : Step State := .shift { state with token }
  if b = '<'.toUInt8 then next .less
  else if !state.inTag then next .content
  else if Octet.isSpaceOrTab b then next .spaces
  else if b = '='.toUInt8 then .accept ⟨true, .complete .assign⟩
  else if Octet.among ['"', '\''] b then next (.attValue b)
  else if b = '>'.toUInt8 then .accept ⟨false, .complete .closeTag⟩
  else if b = '/'.toUInt8 then next .slash
  else if b = '?'.toUInt8 then next .question
  else if isNameOctet b then next .name
  else next .error

def step (state : State) (b : UInt8) : Step State :=
  let next (token : Token) : Step State := .shift { state with token }
  match state.token with
  | .idle => state.lead b
  | .content => if b = '<'.toUInt8 then .reject state else .shift state
  | .less =>
    if b = '/'.toUInt8 then .accept ⟨true, .complete .elementEnd⟩
    else if b = '?'.toUInt8 then .accept ⟨true, .complete .declStart⟩
    else if b = '!'.toUInt8 then next .bang
    else .reject { state with inTag := true }
  | .bang => if b = '-'.toUInt8 then next .bangDash else .reject { state with inTag := true }
  | .bangDash => if b = '-'.toUInt8 then next .comment else { state with inTag := true }.fail b
  | .comment => next (if b = '-'.toUInt8 then .commentDash else .comment)
  | .commentDash => next (if b = '-'.toUInt8 then .commentDashes else .comment)
  | .commentDashes =>
    if b = '>'.toUInt8 then .accept ⟨false, .complete .comment⟩
    else next (if b = '-'.toUInt8 then .commentDashes else .comment)
  | .name => if isNameOctet b then .shift state else .reject state
  | .spaces => if Octet.isSpaceOrTab b then .shift state else .reject state
  | .attValue quote =>
    if b = quote then .accept { state with token := .complete .attValue } else .shift state
  | .slash =>
    if b = '>'.toUInt8 then .accept ⟨false, .complete .emptyElementEnd⟩ else state.fail b
  | .question => if b = '>'.toUInt8 then .accept ⟨false, .complete .declEnd⟩ else state.fail b
  | .error => if isSeparator b then .reject state else .shift state
  | .complete _ => .reject state

/-- Closes the token. A `<` or `<!` that ends here opens a tag all the same. -/
def finish (state : State) : Kind × State :=
  (state.token.finalKind,
    { inTag := state.inTag || state.token == .less || state.token == .bang, token := .idle })

end State

/-- The machine. -/
def machine : Machine where
  Kind := Kind
  State := State
  start := ⟨false, .idle⟩
  isIdle s := s.token == .idle
  kind s := s.token.kind
  step := State.step
  finish := State.finish
  newline s := { s with token := s.token.newline }
  spansNewline s := s.token.spansNewline
  mode s := some s.inTag
  isIdle_finish _ := rfl

end MarkupFeed.Xml
