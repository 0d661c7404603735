/-!
# JSON values and their written forms

JSON values, and their two written forms: compact on one line, and pretty with an indentation of two
spaces.
-/

namespace MarkupFeed

/-- A JSON value. Objects keep the order of their members. -/
inductive Json where
  | null
  | bool (value : Bool)
  | number (value : Nat)
  | text (value : String)
  | array (values : List Json)
  | object (members : List (String × Json))

namespace Json

/-- The hexadecimal digit of a number below 16. -/
def hexDigit (n : Nat) : Char := Nat.digitChar n

/-- A character inside quotes. Control characters are escaped, the usual ones by a letter. -/
def quoteChar (c : Char) : List Char :=
  if c = '"' then ['\\', '"']
  else if c = '\\' then ['\\', '\\']
  else if c = '\x08' then ['\\', 'b']
  else if c = '\x0c' then ['\\', 'f']
  else if c = '\n' then ['\\', 'n']
  else if c = '\r' then ['\\', 'r']
  else if c = '\t' then ['\\', 't']
  else if c.toNat < 0x20 then
    ['\\', 'u', '0', '0', hexDigit (c.toNat / 16), hexDigit (c.toNat % 16)]
  else [c]

/-- The text in quotes. -/
def quoted (text : String) : String :=
  String.ofList (['"'] ++ text.toList.flatMap quoteChar ++ ['"'])

/-! ### On one line -/

mutual

/-- The value on one line, without spaces. -/
def compact : Json → String
  | null => "null"
  | bool value => if value then "true" else "false"
  | number value => toString value
  | text value => quoted value
  | array values => "[" ++ ",".intercalate (compactValues values) ++ "]"
  | object members => "\x7b" ++ ",".intercalate (compactMembers members) ++ "\x7d"

/-- The values of an array. -/
def compactValues : List Json → List String
  | [] => []
  | value :: rest => value.compact :: compactValues rest

/-- The members of an object. -/
def compactMembers : List (String × Json) → List String
  | [] => []
  | (name, value) :: rest => (quoted name ++ ":" ++ value.compact) :: compactMembers rest

end

/-! ### On several lines -/

/-- Items on lines of their own between brackets; the brackets alone if there are none. -/
def block (indent : String) (left right : String) (shown : List String) : String :=
  if shown.isEmpty then left ++ right
  else
    let line := "\n" ++ indent ++ "  "
    left ++ line ++ ("," ++ line).intercalate shown ++ "\n" ++ indent ++ right

mutual

/-- The value on several lines, those after the first one indented. -/
def prettyFrom (indent : String) : Json → String
  | null => "null"
  | bool value => if value then "true" else "false"
  | number value => toString value
  | text value => quoted value
  | array values => block indent "[" "]" (prettyValues (indent ++ "  ") values)
  | object members => block indent "\x7b" "\x7d" (prettyMembers (indent ++ "  ") members)

/-- The values of an array. -/
def prettyValues (indent : String) : List Json → List String
  | [] => []
  | value :: rest => value.prettyFrom indent :: prettyValues indent rest

/-- The members of an object. -/
def prettyMembers (indent : String) : List (String × Json) → List String
  | [] => []
  | (name, value) :: rest =>
    (quoted name ++ ": " ++ value.prettyFrom indent) :: prettyMembers indent rest

end

/-- The value on several lines. -/
def pretty (value : Json) : String := value.prettyFrom ""

end Json

end MarkupFeed
