import MarkupFeed.Text.LowerCase
import MarkupFeed.Toml.Reader

/-!
# Settings in layers

Settings in layers: what a later layer sets replaces what an earlier one did, table by table. Keys
are the same whatever their case. Values remember the file they came from.
-/

namespace MarkupFeed

/-- Settings of several layers, merged. -/
inductive Setting where
  /-- A value that is no table, and the file it came from. -/
  | leaf (value : Toml) (file : Option String)
  | table (entries : List (String × Setting))

namespace Setting

/-- The entries of a table. -/
abbrev Entries := List (String × Setting)

/-- The entries with the value of a key replaced by one that depends on it. -/
def Entries.update (key : String) (change : Option Setting → Setting) : Entries → Entries
  | [] => [(key, change none)]
  | (other, value) :: rest =>
    if key = other then (other, change (some value)) :: rest
    else (other, value) :: update key change rest

/-- The entries a table is merged into: those that are there, unless a value that is no table is in
its place. -/
def tableEntries : Option Setting → Entries
  | some (table entries) => entries
  | _ => []

mutual

/-- Puts a value over what is there. A table without entries leaves it as it is. -/
def merge (file : Option String) : Toml → Option Setting → Setting
  | .table _ [], some setting => setting
  | .table _ entries, existing => table (mergeAll file entries (tableEntries existing))
  | value, _ => leaf value file

/-- Puts entries over those that are there. -/
def mergeAll (file : Option String) : List (String × Toml) → Entries → Entries
  | [], existing => existing
  | (key, value) :: rest, existing =>
    mergeAll file rest (existing.update (Text.lowerCase key) (merge file value))

end

/-- Whether the text can be a part of a key with dots. -/
def isPart (part : List Char) : Bool := !part.isEmpty && part.all Toml.Reader.isBare

/-- The value below a key. A key with dots leads through tables. -/
def spread (key : String) (value : Toml) : String × Toml :=
  let parts := Text.splitChars (· == '.') key.toList
  if parts.all isPart then
    match parts.map String.ofList with
    | first :: rest => (first, rest.foldr (fun part inner => .table .header [(part, inner)]) value)
    | [] => (key, value)
  else (key, value)

/-- Puts a layer over those before it. -/
def Entries.addLayer (file : Option String) (layer : List (String × Toml)) (existing : Entries) :
    Entries :=
  mergeAll file (layer.map fun (key, value) => spread key value) existing

end Setting

end MarkupFeed
