import MarkupFeed.Settings.Layer
import MarkupFeed.Text.Quoted

/-!
# Settings as values of a type

Reads settings as values of the types they are meant for. A truth value or a number may also be
given as a text, and a text as a number.
-/

namespace MarkupFeed

/-- Why the settings cannot be read. -/
inductive SettingsError where
  /-- There is no setting of the name. -/
  | unknownKey (key : String)
  /-- There is no file of the name. -/
  | noFile (name : String)
  /-- The file is no TOML document. -/
  | malformed (name : String)
  /-- The value of a key is not of the type that is expected. -/
  | mismatch (found expected key : String) (file : Option String)
  /-- A section is no table. -/
  | noSection (found section_ : String)
  /-- A section that is given as a list is too short. -/
  | shortSection (length : Nat) (section_ : String) (fields : Nat)
  | missingField (field : String)
  /-- The value names no member of the enumeration. -/
  | noMember (enumeration value : String)
  /-- The value can name no member of the enumeration. -/
  | noName (enumeration : String)
  /-- Pages without posts. -/
  | emptyPages
  deriving DecidableEq, Repr

namespace SettingsError

/-- A number of elements. -/
def elements (n : Nat) : String := toString n ++ if n = 1 then " element" else " elements"

def message : SettingsError → String
  | unknownKey key => "configuration property " ++ Text.quoted key ++ " not found"
  | noFile name => "configuration file \"" ++ name ++ "\" not found"
  | malformed name => "configuration file \"" ++ name ++ "\" is malformed"
  | mismatch found expected key file =>
    "invalid type: " ++ found ++ ", expected " ++ expected ++ " for key `" ++ key ++ "`"
      ++ file.elim "" (" in " ++ ·)
  | noSection found name => "invalid type: " ++ found ++ ", expected struct " ++ name
  | shortSection length name fields =>
    "invalid length " ++ toString length ++ ", expected struct " ++ name ++ " with "
      ++ elements fields
  | missingField field => "missing field `" ++ field ++ "`"
  | noMember enumeration value =>
    "enum " ++ enumeration ++ " does not have variant constructor " ++ value
  | noName enumeration =>
    "value of enum " ++ enumeration
      ++ " should be represented by either string or table with exactly one key"
  | emptyPages => "feed.page_length must be at least 1"

end SettingsError

namespace Setting

/-- What a value is, in messages. -/
def described : Setting → String
  | table _ => "map"
  | leaf value _ =>
    match value with
    | .boolean value => "boolean `" ++ toString value ++ "`"
    | .integer value => "64-bit integer `" ++ toString value ++ "`"
    | .float value => "floating point `" ++ value.text ++ "`"
    | .string value => "string " ++ Text.quoted value
    | .array _ | .tables _ => "sequence"
    | .table .. => "map"

/-- The file a value came from. -/
def file? : Setting → Option String
  | leaf _ file => file
  | table _ => none

/-- The error of a value that is not of the expected type. -/
def mismatch (setting : Setting) (expected key : String) : SettingsError :=
  .mismatch setting.described expected key setting.file?

/-- The words for true and false. -/
def truth? (text : String) : Option Bool :=
  if text ∈ ["1", "true", "on", "yes"] then some true
  else if text ∈ ["0", "false", "off", "no"] then some false
  else none

/-- Reads a truth value. -/
def toBool (key : String) (setting : Setting) : Except SettingsError Bool :=
  match setting with
  | leaf (.boolean value) _ => .ok value
  | leaf (.integer value) _ => .ok (value != 0)
  | leaf (.float value) _ => .ok value.isNonzero
  | leaf (.string value) file =>
    let small := Text.lowerCase value
    match truth? small with
    | some value => .ok value
    | none => .error (mismatch (leaf (.string small) file) "a boolean" key)
  | _ => .error (setting.mismatch "a boolean" key)

/-- The number of a text, which may also be a word for a truth value. -/
def word? (text : String) : Option Nat :=
  let small := Text.lowerCase text
  if small ∈ ["true", "on", "yes"] then some 1
  else if small ∈ ["false", "off", "no"] then some 0
  else (Text.natural? text).filter (· < UInt64.size)

/-- Reads a number that 64 bits hold. -/
def toWord (key : String) (setting : Setting) : Except SettingsError Nat :=
  match setting with
  | leaf (.boolean value) _ => .ok value.toNat
  | leaf (.integer value) _ =>
    if 0 ≤ value then .ok value.toNat
    else .error (setting.mismatch "an unsigned 64 bit or less integer" key)
  | leaf (.float value) _ => .ok value.word64
  | leaf (.string value) _ =>
    match word? value with
    | some value => .ok value
    | none => .error (setting.mismatch "an integer" key)
  | _ => .error (setting.mismatch "an integer" key)

/-- Reads a text. -/
def toText (key : String) (setting : Setting) : Except SettingsError String :=
  match setting with
  | leaf (.string value) _ => .ok value
  | leaf (.boolean value) _ => .ok (toString value)
  | leaf (.integer value) _ => .ok (toString value)
  | leaf (.float value) _ => .ok value.text
  | _ => .error (setting.mismatch "a string" key)

/-- The member of an enumeration that a text names, whatever its case. -/
def member {α : Type} (enumeration : String) (members : List (String × α)) (text : String) :
    Except SettingsError α :=
  match members.find? fun (name, _) => Text.lowerCase name = Text.lowerCase text with
  | some (_, value) => .ok value
  | none => .error (.noMember enumeration text)

/-- Reads a member of an enumeration: a text, or a table with the name as its only key. -/
def toMember {α : Type} (enumeration : String) (members : List (String × α)) (setting : Setting) :
    Except SettingsError α :=
  match setting with
  | leaf (.string value) _ => member enumeration members value
  | table [(key, _)] => member enumeration members key
  | _ => .error (.noName enumeration)

/-! ### Sections -/

/-- What a value is, in messages about sections. -/
def describedFully : Setting → String
  | leaf (.integer value) _ => "integer `" ++ toString value ++ "`"
  | leaf (.float value) _ =>
    let text := value.text
    let isPlain := text.toList.all fun c => c.isDigit || c == '-'
    "floating point `" ++ text ++ (if isPlain then ".0" else "") ++ "`"
  | setting => setting.described

/-- A section: its name in messages, its key, and the names of its fields. -/
structure Section where
  name : String
  key : String
  fields : List String
  /-- How many of the fields have to be there. -/
  required : Nat

/-- Finds the value of a field, and the whole key it has in messages. -/
abbrev Lookup := String → Option (String × Setting)

/-- Reads a section: a table, or a list of the values of all fields. -/
def toSection (s : Section) (setting : Setting) : Except SettingsError Lookup :=
  match setting with
  | table entries =>
    .ok fun field => (entries.lookup field).map fun value => (s.key ++ "." ++ field, value)
  | leaf (.array values) file =>
    if values.length < s.required then
      .error (.shortSection values.length s.name s.fields.length)
    else
      .ok fun field =>
        let index := s.fields.idxOf field
        values[index]?.map fun value =>
          (s.key ++ "[" ++ toString index ++ "]", merge file value none)
  | _ => .error (.noSection setting.describedFully s.name)

/-- Reads a field that has to be there. -/
def required {α : Type} (lookup : Lookup) (field : String)
    (read : String → Setting → Except SettingsError α) : Except SettingsError α :=
  match lookup field with
  | some (key, setting) => read key setting
  | none => .error (.missingField field)

/-- Reads a field that may be missing. -/
def optional {α : Type} (lookup : Lookup) (field : String)
    (read : String → Setting → Except SettingsError α) : Except SettingsError (Option α) :=
  match lookup field with
  | some (key, setting) => (read key setting).map some
  | none => .ok none

end Setting

end MarkupFeed
