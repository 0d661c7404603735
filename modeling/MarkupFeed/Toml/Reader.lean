import MarkupFeed.Toml.Scalar

/-!
# Reading TOML documents

Reads TOML documents. A reader takes something from the beginning of a text, or refuses it; what is
wrong with a text that is refused is not told.
-/

namespace MarkupFeed.Toml.Reader

/-! ### Blanks and comments -/

/-- Removes spaces and tabs in front. -/
def skip (text : List Char) : List Char := text.dropWhile fun c => c == ' ' || c == '\t'

/-- Whether the character may stand in a comment, or unescaped in a text. -/
def isPlain (c : Char) : Bool := c == '\t' || 0x20 ≤ c.toNat && c.toNat != 0x7F

/-- Removes a line end in front. -/
def lineEnd? : List Char → Option (List Char)
  | '\n' :: rest => some rest
  | '\r' :: '\n' :: rest => some rest
  | _ => none

/-- Removes a comment in front, if there is one. -/
def dropComment (text : List Char) : List Char :=
  match text with
  | '#' :: rest => rest.dropWhile isPlain
  | _ => text

/-- Removes the end of a line: blanks, a comment, and the line end or nothing. -/
def endLine (text : List Char) : Option (List Char) :=
  match dropComment (skip text) with
  | [] => some []
  | rest => lineEnd? rest

/-- Removes blanks, comments and line ends in front. -/
def skipLines (inComment : Bool) : List Char → Option (List Char)
  | [] => some []
  | '\n' :: rest => skipLines false rest
  | '\r' :: '\n' :: rest => skipLines false rest
  | c :: rest =>
    if inComment then (if isPlain c then skipLines true rest else none)
    else if c = ' ' ∨ c = '\t' then skipLines false rest
    else if c = '#' then skipLines true rest
    else some (c :: rest)

/-! ### Texts -/

/-- The character that is meant by a letter after a backslash. -/
def escaped? (c : Char) : Option Char :=
  match c with
  | 'b' => some '\x08'
  | 't' => some '\t'
  | 'n' => some '\n'
  | 'f' => some '\x0c'
  | 'r' => some '\r'
  | '"' => some '"'
  | '\\' => some '\\'
  | _ => none

/-- The character of a code in hexadecimal digits. -/
def coded? (digits : List Char) : Option Char :=
  let code := Scalar.valueIn 16 digits
  if digits.all (fun c => c.isDigit || 'a' ≤ c.toLower && c.toLower ≤ 'f') && code.isValidChar then
    some (Char.ofNat code)
  else none

/-- Puts a character in front of what is taken from the rest. -/
def followedBy (c : Option Char) (rest : Option (List Char × List Char)) :
    Option (List Char × List Char) :=
  match c, rest with
  | some c, some (text, rest) => some (c :: text, rest)
  | _, _ => none

/-- Takes a text with escapes up to the quote that ends it. -/
def basic : List Char → Option (List Char × List Char)
  | [] => none
  | '"' :: rest => some ([], rest)
  | '\\' :: 'u' :: a :: b :: c :: d :: rest => followedBy (coded? [a, b, c, d]) (basic rest)
  | '\\' :: 'U' :: a :: b :: c :: d :: e :: f :: g :: h :: rest =>
    followedBy (coded? [a, b, c, d, e, f, g, h]) (basic rest)
  | '\\' :: c :: rest => followedBy (escaped? c) (basic rest)
  | c :: rest => followedBy (if isPlain c && c != '\\' then some c else none) (basic rest)

/-- Takes a text without escapes up to the quote that ends it. -/
def literal : List Char → Option (List Char × List Char)
  | [] => none
  | '\'' :: rest => some ([], rest)
  | c :: rest => followedBy (if isPlain c then some c else none) (literal rest)

/-- Takes a text of several lines with escapes, up to the quotes that end it. After a backslash at
the end of a line, blanks and line ends are left out (`joining`). -/
def basicLines (joining : Bool) : List Char → Option (List Char × List Char)
  | [] => none
  | '"' :: '"' :: '"' :: '"' :: '"' :: rest => some (['"', '"'], rest)
  | '"' :: '"' :: '"' :: '"' :: rest => some (['"'], rest)
  | '"' :: '"' :: '"' :: rest => some ([], rest)
  | '\r' :: '\n' :: rest =>
    if joining then basicLines true rest else followedBy (some '\n') (basicLines false rest)
  | '\n' :: rest =>
    if joining then basicLines true rest else followedBy (some '\n') (basicLines false rest)
  | '\\' :: 'u' :: a :: b :: c :: d :: rest =>
    followedBy (coded? [a, b, c, d]) (basicLines false rest)
  | '\\' :: 'U' :: a :: b :: c :: d :: e :: f :: g :: h :: rest =>
    followedBy (coded? [a, b, c, d, e, f, g, h]) (basicLines false rest)
  | '\\' :: c :: rest =>
    if (lineEnd? (skip (c :: rest))).isSome then basicLines true (c :: rest)
    else followedBy (escaped? c) (basicLines false rest)
  | c :: rest =>
    if joining && (c == ' ' || c == '\t') then basicLines true rest
    else followedBy (if isPlain c && c != '\\' then some c else none) (basicLines false rest)

/-- Takes a text of several lines without escapes, up to the quotes that end it. -/
def literalLines : List Char → Option (List Char × List Char)
  | [] => none
  | '\'' :: '\'' :: '\'' :: '\'' :: '\'' :: rest => some (['\'', '\''], rest)
  | '\'' :: '\'' :: '\'' :: '\'' :: rest => some (['\''], rest)
  | '\'' :: '\'' :: '\'' :: rest => some ([], rest)
  | '\r' :: '\n' :: rest => followedBy (some '\n') (literalLines rest)
  | '\n' :: rest => followedBy (some '\n') (literalLines rest)
  | c :: rest => followedBy (if isPlain c then some c else none) (literalLines rest)

/-- Removes a line end in front, if there is one. -/
def dropLineEnd (text : List Char) : List Char := (lineEnd? text).getD text

/-! ### Keys -/

/-- Whether a key may hold the character without quotes. -/
def isBare (c : Char) : Bool := c.isAlphanum || c == '_' || c == '-'

/-- Takes a single key. -/
def simpleKey (text : List Char) : Option (String × List Char) :=
  match text with
  | '"' :: rest => (basic rest).map fun (key, rest) => (String.ofList key, rest)
  | '\'' :: rest => (literal rest).map fun (key, rest) => (String.ofList key, rest)
  | _ =>
    match text.takeWhile isBare with
    | [] => none
    | key => some (String.ofList key, text.dropWhile isBare)

/-- Takes keys with dots between them: those in front of the last, and the last. -/
def key : Nat → List Char → Option ((Path × String) × List Char)
  | 0, _ => none
  | fuel + 1, text => do
    let (first, rest) ← simpleKey text
    match skip rest with
    | '.' :: rest =>
      let ((path, last), rest) ← key fuel (skip rest)
      some ((first :: path, last), rest)
    | rest => some (([], first), rest)

/-! ### Values -/

mutual

/-- Takes a value. -/
def value : Nat → List Char → Option (Toml × List Char)
  | 0, _ => none
  | fuel + 1, text =>
    match text with
    | '"' :: '"' :: '"' :: rest =>
      (basicLines false (dropLineEnd rest)).map fun (text, rest) =>
        (.string (String.ofList text), rest)
    | '"' :: rest => (basic rest).map fun (text, rest) => (.string (String.ofList text), rest)
    | '\'' :: '\'' :: '\'' :: rest =>
      (literalLines (dropLineEnd rest)).map fun (text, rest) => (.string (String.ofList text), rest)
    | '\'' :: rest => (literal rest).map fun (text, rest) => (.string (String.ofList text), rest)
    | '[' :: rest =>
      (skipLines false rest).bind fun rest =>
        (elements fuel rest).map fun (values, rest) => (.array values, rest)
    | '\x7b' :: rest =>
      match skip rest with
      | '\x7d' :: rest => some (.table .braces [], rest)
      | rest => (members fuel [] rest).map fun (entries, rest) => (.table .braces entries, rest)
    | _ => Scalar.value text

/-- Takes the rest of an array, up to the bracket that ends it. A comma may follow the last
element. -/
def elements : Nat → List Char → Option (List Toml × List Char)
  | 0, _ => none
  | _ + 1, ']' :: rest => some ([], rest)
  | fuel + 1, text => do
    let (first, rest) ← value fuel text
    match ← skipLines false rest with
    | ']' :: rest => some ([first], rest)
    | ',' :: rest =>
      let (more, rest) ← elements fuel (← skipLines false rest)
      some (first :: more, rest)
    | _ => none

/-- Takes the rest of a table in braces, up to the brace that ends it. -/
def members : Nat → Entries → List Char → Option (Entries × List Char)
  | 0, _, _ => none
  | fuel + 1, entries, text => do
    let ((path, last), rest) ← key fuel text
    let (value, rest) ← value fuel (skip (← Scalar.char '=' rest))
    let entries ← entries.insertDotted path last value
    match skip rest with
    | '\x7d' :: rest => some (entries, rest)
    | ',' :: rest => members fuel entries (skip rest)
    | _ => none

end

/-! ### Documents -/

/-- Takes a line. -/
def line (fuel : Nat) (text : List Char) : Option (Line × List Char) :=
  match skip text with
  | [] => some (.blank, [])
  | '[' :: '[' :: rest => do
    let ((path, last), rest) ← key fuel (skip rest)
    match rest with
    | ']' :: ']' :: rest => some (.element path last, ← endLine rest)
    | _ => none
  | '[' :: rest => do
    let ((path, last), rest) ← key fuel (skip rest)
    match rest with
    | ']' :: rest => some (.header path last, ← endLine rest)
    | _ => none
  | rest =>
    match endLine rest with
    | some rest => some (.blank, rest)
    | none => do
      let ((path, last), rest) ← key fuel rest
      let (value, rest) ← value fuel (skip (← Scalar.char '=' rest))
      some (.entry path last value, ← endLine rest)

/-- Takes all lines. -/
def lines (fuel : Nat) : Nat → List Char → Option (List Line)
  | _, [] => some []
  | 0, _ => none
  | count + 1, text => do
    let (first, rest) ← line fuel text
    let more ← lines fuel count rest
    some (first :: more)

end Reader

/-- Reads a document, and gives the entries of its root. -/
def parse? (text : String) : Option Entries :=
  let chars := match text.toList with
    | '\ufeff' :: rest => rest
    | chars => chars
  (Reader.lines (2 * chars.length + 2) (chars.length + 1) chars).bind ofLines

end MarkupFeed.Toml
