import MarkupFeed.Binary64

/-!
# TOML values and documents

The values of TOML documents, and how a document is put together from its lines.

A table may be named several times as long as its content is given once. So a table remembers how it
came to be (`Toml.Origin`): by its own header, on the way to the header of another table, by a key
with dots, or in braces.
-/

namespace MarkupFeed

namespace Toml

/-- How a table came to be. -/
inductive Origin where
  /-- By a header of its own. -/
  | header
  /-- On the way to another table. -/
  | passing
  /-- By a key with dots. -/
  | dotted
  /-- In braces, all at once. -/
  | braces
  deriving DecidableEq, Repr

end Toml

/-- A TOML value. Dates and times are kept as text. -/
inductive Toml where
  | boolean (value : Bool)
  | integer (value : Int)
  | float (value : Binary64)
  | string (value : String)
  | array (values : List Toml)
  | table (origin : Toml.Origin) (entries : List (String × Toml))
  /-- The tables of one array, latest first. -/
  | tables (elements : List (List (String × Toml)))

namespace Toml

/-- The entries of a table. -/
abbrev Entries := List (String × Toml)

/-- The path of a table: keys from the root. -/
abbrev Path := List String

namespace Entries

/-- The entries with the value of a key changed. A key without a value gets one at the end. -/
def alter (key : String) (change : Option Toml → Option Toml) : Entries → Option Entries
  | [] => (change none).map fun value => [(key, value)]
  | (other, value) :: rest =>
    if key = other then (change (some value)).map fun value => (other, value) :: rest
    else (alter key change rest).map ((other, value) :: ·)

/-- The entries of the table at a path changed. Tables that are missing on the way are made. Keys
with dots do not lead into tables that have a header. -/
def alterAt (made : Origin) (change : Origin → Entries → Option Entries) (here : Origin) :
    Path → Entries → Option Entries
  | [], entries => change here entries
  | key :: path, entries =>
    entries.alter key fun
      | none => (alterAt made change made path []).map (table made)
      | some (table origin below) =>
        if origin = .braces ∨ made = .dotted ∧ origin = .header then none
        else (alterAt made change origin path below).map (table origin)
      | some (tables (last :: before)) =>
        (alterAt made change .header path last).map fun last => tables (last :: before)
      | some _ => none

/-- The entries with one more key. -/
def insertNew (key : String) (value : Toml) (entries : Entries) : Option Entries :=
  entries.alter key fun
    | none => some value
    | some _ => none

/-- The entries with a value at a key with dots. The tables on the way are open to further keys with
dots only. -/
def insertDotted (path : Path) (key : String) (value : Toml) (entries : Entries) : Option Entries :=
  alterAt .dotted
    (fun origin below => if path ≠ [] ∧ origin ≠ .dotted then none else below.insertNew key value)
    .header path entries

/-- The entries with a table opened by its header. It may have been passed before, but not had a
header or keys of its own. -/
def openTable (path : Path) (key : String) (entries : Entries) : Option Entries :=
  alterAt .passing
    (fun _ below => below.alter key fun
      | none => some (table .header [])
      | some (table .passing inner) => some (table .header inner)
      | some _ => none)
    .header path entries

/-- The entries with one more table in an array of tables. -/
def openElement (path : Path) (key : String) (entries : Entries) : Option Entries :=
  alterAt .passing
    (fun _ below => below.alter key fun
      | none => some (tables [[]])
      | some (tables elements) => some (tables ([] :: elements))
      | some _ => none)
    .header path entries

end Entries

/-! ### Lines -/

/-- What a line says, with `init` and `last` the keys in front of a key and the key. -/
inductive Line where
  | blank
  | entry (init : Path) (last : String) (value : Toml)
  | header (init : Path) (last : String)
  | element (init : Path) (last : String)

/-- A document in the middle of a table. -/
structure Document where
  entries : Entries := []
  /-- The table the following lines fill. -/
  current : Path := []

/-- The document with one more line. -/
def Document.add (document : Document) : Line → Option Document
  | .blank => some document
  | .entry init last value =>
    (Entries.alterAt .passing (fun _ below => below.insertDotted init last value) .header
      document.current document.entries).map fun entries => { document with entries }
  | .header init last =>
    (document.entries.openTable init last).map fun entries => ⟨entries, init ++ [last]⟩
  | .element init last =>
    (document.entries.openElement init last).map fun entries => ⟨entries, init ++ [last]⟩

/-- The entries of a document, given by its lines. -/
def ofLines (lines : List Line) : Option Entries :=
  (lines.foldlM Document.add {}).map Document.entries

end Toml

end MarkupFeed
