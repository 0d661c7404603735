import MarkupFeed.Pattern.Written
import MarkupFeed.Text.Number

/-!
# Reading the written form of patterns

Every reader takes the rest of the text and returns what it read with what is left. A text that is
not a pattern has no reading. White space and comments are skipped between the signs of a verbose
pattern only, and there even inside numbers and names of escapes.

Fuel bounds the nesting, and three times the length of the text is always enough of it.
-/

namespace MarkupFeed.Pattern

/-! ### White space and comments -/

/-- Skips white space and comments; `comment` tells whether a comment has begun. -/
def skipFrom (comment : Bool) : List Char → List Char
  | [] => []
  | c :: rest =>
    if comment then skipFrom (c != '\n') rest
    else if Text.isBlank c then skipFrom false rest
    else if c = '#' then skipFrom true rest
    else c :: rest

/-- Skips what a verbose pattern does not mean. -/
def skip (verbose : Bool) (rest : List Char) : List Char :=
  if verbose then skipFrom false rest else rest

/-- Reads up to a closing brace, without what a verbose pattern does not mean. -/
def readBraced (verbose comment : Bool) : List Char → Option (List Char × List Char)
  | [] => none
  | c :: rest =>
    if comment then readBraced verbose (c != '\n') rest
    else if verbose && Text.isBlank c then readBraced verbose false rest
    else if verbose && c == '#' then readBraced verbose true rest
    else if c = '\x7d' then some ([], rest)
    else (readBraced verbose false rest).map fun (chars, rest) => (c :: chars, rest)

/-! ### Escapes -/

/-- What a backslash and what follows it stand for. -/
inductive Escape where
  | literal (char : Literal)
  | set (members : WrittenSet)
  | position (sign : PositionSign)

/-- The character of a code point in hexadecimal digits. -/
def codePoint? (digits : List Char) : Option Char :=
  let value := Text.hexDigitsValue digits
  if !digits.isEmpty && digits.all (Text.hexDigitValue? · |>.isSome) && value.isValidChar then
    some (Char.ofNat value)
  else none

/-- Reads so many characters. -/
def readChars (verbose : Bool) : Nat → List Char → Option (List Char × List Char)
  | 0, rest => some ([], rest)
  | _, [] => none
  | n + 1, c :: rest =>
    (readChars verbose n (skip verbose rest)).map fun (chars, rest) => (c :: chars, rest)

/-- Reads a code point in hexadecimal: so many digits, or any number of them in braces. -/
def readCodePoint (verbose : Bool) (digits : Nat) (rest : List Char) :
    Option (Escape × List Char) := do
  match rest with
  | '\x7b' :: rest =>
    let (chars, rest) ← readBraced verbose false rest
    let char ← codePoint? chars
    some (.literal ⟨char, false⟩, rest)
  | rest =>
    let (chars, rest) ← readChars verbose digits rest
    let char ← codePoint? chars
    some (.literal ⟨char, digits == 2⟩, rest)

/-- Splits a query at its first `!=`, or else at a colon, or else at an equals sign. The flag tells
whether the value is excluded. -/
def queryOf (chars : List Char) : Unicode.Query × Bool :=
  match splitAtUnequal [] chars with
  | some (name, value) => (.valued name value, true)
  | none =>
    match chars.dropWhile (· ≠ ':'), chars.dropWhile (· ≠ '=') with
    | _ :: value, _ => (.valued (chars.takeWhile (· ≠ ':')) value, false)
    | [], _ :: value => (.valued (chars.takeWhile (· ≠ '=')) value, false)
    | [], [] => (.named chars, false)
where
  /-- What is before and after the first `!=`; `before` holds the characters so far, latest
  first. -/
  splitAtUnequal (before : List Char) : List Char → Option (List Char × List Char)
    | '!' :: '=' :: after => some (before.reverse, after)
    | c :: rest => splitAtUnequal (c :: before) rest
    | [] => none

/-- Reads the property of an escape `\p` or `\P`: a name of one letter, or a query in braces. -/
def readProperty (verbose negated : Bool) (rest : List Char) : Option (Escape × List Char) :=
  match rest with
  | [] | '\\' :: _ => none
  | '\x7b' :: rest =>
    (readBraced verbose false rest).map fun (chars, rest) =>
      let (query, excluded) := queryOf chars
      (.set (.property query (negated != excluded)), rest)
  | c :: rest => some (.set (.property (.named [c]) negated), rest)

/-- Whether a backslash before the character makes it literal. -/
def isEscapable (c : Char) : Bool :=
  c.toNat < 0x80 && !c.isAlphanum && c != '<' && c != '>'

/-- The sides of a word that can be named in braces. -/
def wordEdge? (name : String) : Option WordEdge :=
  match name with
  | "start" => some .wordStart
  | "end" => some .wordEnd
  | "start-half" => some .afterNoWord
  | "end-half" => some .beforeNoWord
  | _ => none

/-- Reads what follows an escape `\b`: the side of a word in braces, if anything there begins like
a name. Other braces are left for a number of repetitions. -/
def readBoundary (verbose : Bool) (rest : List Char) : Option (Escape × List Char) :=
  let plain : Escape × List Char := (.position (.word .boundary), rest)
  match rest with
  | '\x7b' :: inside =>
    match skip verbose inside with
    | [] => none
    | c :: _ =>
      if c.isAlpha || c == '-' then do
        let (name, rest) ← readBraced verbose false inside
        let edge ← wordEdge? (String.ofList name)
        some (.position (.word edge), rest)
      else some plain
  | _ => some plain

/-- Reads what follows a backslash. -/
def readEscape (verbose : Bool) : List Char → Option (Escape × List Char)
  | [] => none
  | c :: rest =>
    let literal (c : Char) : Option (Escape × List Char) := some (.literal ⟨c, false⟩, rest)
    let short (kind : Short) (negated : Bool) : Option (Escape × List Char) :=
      some (.set (.short kind negated), rest)
    let position (sign : PositionSign) : Option (Escape × List Char) :=
      some (.position sign, rest)
    match c with
    | 'd' => short .digit false
    | 'D' => short .digit true
    | 's' => short .blank false
    | 'S' => short .blank true
    | 'w' => short .word false
    | 'W' => short .word true
    | 'p' => readProperty verbose false (skip verbose rest)
    | 'P' => readProperty verbose true (skip verbose rest)
    | 'A' => position .textStart
    | 'z' => position .textEnd
    | 'b' => readBoundary verbose rest
    | 'B' => position (.word .noBoundary)
    | '<' => position (.word .wordStart)
    | '>' => position (.word .wordEnd)
    | 'a' => literal '\x07'
    | 'f' => literal '\x0c'
    | 't' => literal '\t'
    | 'n' => literal '\n'
    | 'r' => literal '\r'
    | 'v' => literal '\x0b'
    | 'x' => readCodePoint verbose 2 (skip verbose rest)
    | 'u' => readCodePoint verbose 4 (skip verbose rest)
    | 'U' => readCodePoint verbose 8 (skip verbose rest)
    | _ => if isEscapable c then literal c else none

/-! ### Bracketed sets -/

/-- The set of a name in `[:name:]`. -/
def namedSet? (name : String) : Option Runs :=
  match name with
  | "alnum" => some (.ofRanges [('0', '9'), ('A', 'Z'), ('a', 'z')])
  | "alpha" => some (.ofRanges [('A', 'Z'), ('a', 'z')])
  | "ascii" => some (.range '\x00' '\x7f')
  | "blank" => some (.ofRanges [('\t', '\t'), (' ', ' ')])
  | "cntrl" => some (.ofRanges [('\x00', '\x1f'), ('\x7f', '\x7f')])
  | "digit" => some (.range '0' '9')
  | "graph" => some (.range '!' '~')
  | "lower" => some (.range 'a' 'z')
  | "print" => some (.range ' ' '~')
  | "punct" => some (.ofRanges [('!', '/'), (':', '@'), ('[', '\x60'), ('\x7b', '~')])
  | "space" => some (.ofRanges [('\t', '\r'), (' ', ' ')])
  | "upper" => some (.range 'A' 'Z')
  | "word" => some (.ofRanges [('0', '9'), ('A', 'Z'), ('_', '_'), ('a', 'z')])
  | "xdigit" => some (.ofRanges [('0', '9'), ('A', 'F'), ('a', 'f')])
  | _ => none

/-- Reads a named set such as `:alpha:]` or `:^alpha:]`, after its opening bracket. -/
def readNamedSet (rest : List Char) : Option (WrittenSet × List Char) :=
  match rest with
  | ':' :: rest =>
    let negated := rest.head? = some '^'
    let rest := if negated then rest.drop 1 else rest
    match rest.dropWhile (· ≠ ':') with
    | ':' :: ']' :: after =>
      (namedSet? (String.ofList (rest.takeWhile (· ≠ ':')))).map fun members =>
        (.named members negated, after)
    | _ => none
  | _ => none

/-- Reads one character or one escape of a set. -/
def readMember (verbose : Bool) : List Char → Option (WrittenSet × List Char)
  | [] => none
  | '\\' :: rest =>
    match readEscape verbose rest with
    | some (.literal char, rest) => some (.literal char, rest)
    | some (.set members, rest) => some (members, rest)
    | _ => none
  | c :: rest => some (.literal ⟨c, false⟩, rest)

/-- The next character that is neither blank nor the first `#`. -/
def peekFrom (comment : Bool) : List Char → Option Char
  | [] => none
  | c :: rest =>
    if Text.isBlank c then peekFrom comment rest
    else if c = '#' ∧ comment = false then peekFrom true rest
    else some c

/-- What decides whether a dash before the rest makes a range: the character after it, in a verbose
pattern the next one that is neither blank nor the sign of a comment. -/
def peek (verbose : Bool) (rest : List Char) : Option Char :=
  if verbose then (peekFrom false rest).or rest.head? else rest.head?

/-- Reads a literal, a range or an escaped set. -/
def readRange (verbose : Bool) (rest : List Char) : Option (WrittenSet × List Char) := do
  let (first, rest) ← readMember verbose rest
  match skip verbose rest with
  | [] => none
  | '-' :: next =>
    if peek verbose next = some ']' ∨ peek verbose next = some '-' then
      some (first, '-' :: next)
    else
      match first, ← readMember verbose (skip verbose next) with
      | .literal low, (.literal high, rest) =>
        if low.char ≤ high.char then some (.range low high, rest) else none
      | _, _ => none
  | rest => some (first, rest)

/-- The set of items of which the last one comes first, combined with what is before them. -/
def closeItems (before : Option (SetOperation × WrittenSet)) (items : List WrittenSet) :
    WrittenSet :=
  let right :=
    match items with
    | [item] => item
    | items => .union items.reverse
  match before with
  | none => right
  | some (kind, left) => .operation kind left right

mutual

/-- Reads a set after its opening bracket. -/
def readBracketed (verbose : Bool) : Nat → List Char → Option (WrittenSet × List Char)
  | 0, _ => none
  | fuel + 1, rest =>
    let rest := skip verbose rest
    let negated := rest.head? = some '^'
    let rest := if negated then rest.drop 1 else rest
    (readItems verbose fuel true none [] rest).map fun (members, rest) =>
      (.bracketed negated members, rest)

/-- Reads the items of a set up to its closing bracket. `first` tells whether nothing but dashes has
come yet, `items` are those since the last operation, latest first, and `before` is that operation
with the set before it. Dashes at the start are literal, and so is a bracket that closes
nothing. -/
def readItems (verbose : Bool) : Nat → Bool → Option (SetOperation × WrittenSet) →
    List WrittenSet → List Char → Option (WrittenSet × List Char)
  | 0, _, _, _, _ => none
  | fuel + 1, first, before, items, rest =>
    let operate (kind : SetOperation) (rest : List Char) : Option (WrittenSet × List Char) :=
      readItems verbose fuel false (some (kind, closeItems before items)) [] rest
    match skip verbose rest with
    | [] => none
    | c :: rest =>
      if first && (c == '-' || (c == ']' && items.isEmpty)) then
        readItems verbose fuel (c == '-') before (.literal ⟨c, false⟩ :: items) rest
      else
        match c, rest with
        | ']', rest => some (closeItems before items, rest)
        | '[', rest => do
          let (item, rest) ← (readNamedSet rest).or (readBracketed verbose fuel rest)
          readItems verbose fuel false before (item :: items) rest
        | '&', '&' :: rest => operate .inter rest
        | '-', '-' :: rest => operate .diff rest
        | '~', '~' :: rest => operate .symmDiff rest
        | c, rest => do
          let (item, rest) ← readRange verbose (c :: rest)
          readItems verbose fuel false before (item :: items) rest

end

/-! ### Repetitions -/

/-- Reads decimal digits. -/
def readDigits (verbose comment : Bool) : List Char → List Char × List Char
  | [] => ([], [])
  | c :: rest =>
    if comment then readDigits verbose (c != '\n') rest
    else if c.isDigit then
      let (digits, rest) := readDigits verbose false rest
      (c :: digits, rest)
    else if verbose && Text.isBlank c then readDigits verbose false rest
    else if verbose && c == '#' then readDigits verbose true rest
    else ([], c :: rest)

/-- Reads a number of 32 bits, with white space around it in any pattern. -/
def readCount (verbose : Bool) (rest : List Char) : Option (Nat × List Char) :=
  let (digits, rest) := readDigits verbose false (rest.dropWhile Text.isBlank)
  let value := Text.digitsValue digits
  if digits.isEmpty || value ≥ UInt32.size then none
  else some (value, skip verbose (rest.dropWhile Text.isBlank))

/-- Reads the numbers of a repetition after its opening brace: the least, and how many more are
allowed. -/
def readCounts (verbose : Bool) (rest : List Char) : Option (Nat × Option Nat × List Char) := do
  let (least, rest) ← readCount verbose (skip verbose rest)
  match rest with
  | '\x7d' :: rest => some (least, some 0, rest)
  | ',' :: rest =>
    match skip verbose rest with
    | '\x7d' :: rest => some (least, none, rest)
    | rest =>
      let (most, rest) ← readCount verbose rest
      match rest with
      | '\x7d' :: rest => if least ≤ most then some (least, some (most - least), rest) else none
      | _ => none
  | _ => none

/-- Skips a question mark that makes the repetition before it lazy. Lazy and greedy repetitions
match the same texts. -/
def skipLazy : List Char → List Char
  | '?' :: rest => rest
  | rest => rest

/-- Repeats the latest of the items. Flags cannot be repeated. -/
def repeatLast (least : Nat) (extra : Option Nat) : List Written → Option (List Written)
  | [] | .flags _ :: _ => none
  | item :: items => some (.repetition item least extra :: items)

/-! ### Groups -/

/-- Reads flags such as `i-s` up to the `)` or `:` that ends them, and tells whether it was the
colon. `changes` are those so far, latest first, and `on` tells whether no minus has come yet. No
flag comes twice. -/
def readFlags (on : Bool) (changes : FlagChanges) :
    List Char → Option (FlagChanges × Bool × List Char)
  | [] => none
  | c :: rest =>
    if c = ':' then some (changes.reverse, true, rest)
    else if c = ')' then if changes.isEmpty then none else some (changes.reverse, false, rest)
    else if c = '-' then
      if on && rest.head? != some ':' && rest.head? != some ')' then readFlags false changes rest
      else none
    else do
      let flag ← Flag.ofChar? c
      if changes.any (·.1 == flag) then none else readFlags on ((flag, on) :: changes) rest

/-- What can be the first character of a group's name. -/
def startsName (c : Char) : Bool := c == '_' || Unicode.alphabetic.contains c

/-- What can be a later character of a group's name. -/
def continuesName (c : Char) : Bool :=
  startsName c || c == '.' || c == '[' || c == ']'
    || (Unicode.inCategories ["Nd", "Nl", "No"]).contains c

/-- Reads the name of a group up to its closing angle bracket. -/
def readGroupName (rest : List Char) : Option (List Char × List Char) :=
  match rest.takeWhile (· ≠ '>'), rest.dropWhile (· ≠ '>') with
  | c :: name, _ :: rest =>
    if startsName c && name.all continuesName then some (c :: name, rest) else none
  | _, _ => none

/-- What an opening parenthesis begins. -/
inductive GroupHead where
  | flags (changes : FlagChanges)
  | group (changes : FlagChanges)
  | capture (name : Option (List Char))

/-- Reads what follows an opening parenthesis. -/
def readGroupHead (rest : List Char) : Option (GroupHead × List Char) :=
  match rest with
  | '?' :: 'P' :: '<' :: rest | '?' :: '<' :: rest =>
    (readGroupName rest).map fun (name, rest) => (.capture (some name), rest)
  | '?' :: rest =>
    (readFlags true [] rest).map fun (changes, colon, rest) =>
      (if colon then .group changes else .flags changes, rest)
  | rest => some (.capture none, rest)

/-- Whether a pattern is verbose after flags were changed. -/
def verboseAfter (verbose : Bool) (changes : FlagChanges) : Bool :=
  (changes.lookup .verbose).getD verbose

/-! ### Patterns -/

/-- Reads a sign that stands alone. -/
def readSign (verbose : Bool) (c : Char) (rest : List Char) : Option (Written × List Char) :=
  match c with
  | '.' => some (.dot, rest)
  | '^' => some (.position .caret, rest)
  | '$' => some (.position .dollar, rest)
  | '\\' =>
    (readEscape verbose rest).map fun (escape, rest) =>
      match escape with
      | .literal char => (.literal char, rest)
      | .set members => (.set members, rest)
      | .position sign => (.position sign, rest)
  | c => some (.literal ⟨c, false⟩, rest)

/-- Items one after the other. -/
def concatOf : List Written → Written
  | [] => .empty
  | [item] => item
  | items => .concat items

/-- Alternatives. -/
def alternationOf : List Written → Written
  | [branch] => branch
  | branches => .alternation branches

mutual

/-- Reads alternatives up to a closing parenthesis or the end. -/
def readBranches : Nat → Bool → List Char → Option (List Written × List Char)
  | 0, _, _ => none
  | fuel + 1, verbose, rest => do
    let (branch, verbose, rest) ← readConcat fuel verbose [] rest
    match rest with
    | '|' :: rest =>
      let (branches, rest) ← readBranches fuel verbose rest
      some (branch :: branches, rest)
    | rest => some ([branch], rest)

/-- Reads items one after the other up to the end of an alternative, after `items`, of which the
latest comes first. Whether the pattern is verbose may change on the way. -/
def readConcat : Nat → Bool → List Written → List Char → Option (Written × Bool × List Char)
  | 0, _, _, _ => none
  | fuel + 1, verbose, items, rest =>
    let repeated (least : Nat) (extra : Option Nat) (rest : List Char) :
        Option (Written × Bool × List Char) := do
      readConcat fuel verbose (← repeatLast least extra items) (skipLazy rest)
    match skip verbose rest with
    | [] => some (concatOf items.reverse, verbose, [])
    | c :: rest =>
      match c with
      | '|' | ')' => some (concatOf items.reverse, verbose, c :: rest)
      | '*' => repeated 0 none rest
      | '+' => repeated 1 none rest
      | '?' => repeated 0 (some 1) rest
      | '\x7b' => do
        let (least, extra, rest) ← readCounts verbose rest
        repeated least extra (skip verbose rest)
      | '[' => do
        let (members, rest) ← readBracketed verbose fuel rest
        readConcat fuel verbose (.set members :: items) rest
      | '(' => do
        match ← readGroupHead (skip verbose rest) with
        | (.flags changes, rest) =>
          readConcat fuel (verboseAfter verbose changes) (.flags changes :: items) rest
        | (.group changes, rest) =>
          match ← readBranches fuel (verboseAfter verbose changes) rest with
          | (branches, ')' :: rest) =>
            readConcat fuel verbose (.group changes (alternationOf branches) :: items) rest
          | _ => none
        | (.capture name, rest) =>
          match ← readBranches fuel verbose rest with
          | (branches, ')' :: rest) =>
            readConcat fuel verbose (.capture name (alternationOf branches) :: items) rest
          | _ => none
      | c => do
        let (item, rest) ← readSign verbose c rest
        readConcat fuel verbose (item :: items) rest

end

/-- Reads a whole text. -/
def Written.read? (text : String) : Option Written :=
  match readBranches (3 * text.toList.length + 3) false text.toList with
  | some (branches, []) => some (alternationOf branches)
  | _ => none

end MarkupFeed.Pattern
