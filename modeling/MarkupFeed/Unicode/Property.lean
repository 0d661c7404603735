import MarkupFeed.Unicode.Age
import MarkupFeed.Unicode.Segment

/-!
# Character properties by name

Sets of characters asked for by the names of their properties.

Names are compared loosely: case, spaces, hyphens, underscores and a leading `is` do not count. A
name alone is a trait, a general category or a script; a name with a value is one of the
properties that have values.
-/

namespace MarkupFeed.Unicode

/-- What a loose comparison of names compares. -/
def squeezed (name : List Char) : List Char :=
  (name.filter fun c => c.toNat < 0x80 && c != ' ' && c != '_' && c != '-').map Char.toLower

/-- What a loose comparison makes of a name that is asked for. `isc` is a name of its own and not
`c` with an `is` before it. -/
def loosely (name : List Char) : List Char :=
  if squeezed (name.take 2) = ['i', 's'] then
    match squeezed (name.drop 2) with
    | ['c'] => ['i', 's', 'c']
    | rest => rest
  else squeezed name

/-- What a list has under a name. -/
def under? {α : Type} (entries : List (List String × α)) (name : List Char) : Option α :=
  (entries.find? fun (names, _) => names.any (squeezed ·.toList == name)).map (·.2)

/-! ### Properties by name -/

/-- The characters of a general category or of one of the sets that go with them. -/
def category? (name : List Char) : Option Runs :=
  if name = "any".toList then some .all
  else if name = "assigned".toList then some unassigned.complement
  else if name = "ascii".toList then some [0, 0x80]
  else (under? categoryNames name).map inCategories

/-- The code of a script in a list of codes and names. -/
def scriptCodeIn? (name : List Char) : List (List Char) → Option String
  | code :: full :: rest =>
    if squeezed code = name ∨ squeezed full = name then some (String.ofList code)
    else scriptCodeIn? name rest
  | _ => none

/-- The code of a script. -/
def scriptCode? (name : List Char) : Option String :=
  match under? (scriptAliases.map fun (other, code) => ([other], code)) name with
  | some code => some code
  | none => scriptCodeIn? name scriptNames

/-- The version of Unicode that a number such as `3.0` or a name such as `V3_0` stands for. -/
def version? (name : List Char) : Option String :=
  versions.find? fun version =>
    version.toList == name || 'v' :: version.toList.filter (· ≠ '.') == name

/-- The properties that have values. -/
inductive Valued where
  | category
  | script
  | scriptExtensions
  | age
  | graphemeBreak
  | wordBreak
  | sentenceBreak
  deriving DecidableEq, Repr

/-- The names of the properties that have values. -/
def valuedNames : List (List String × Valued) :=
  [(["General_Category", "gc"], .category), (["Script", "sc"], .script),
   (["Script_Extensions", "scx"], .scriptExtensions), (["Age"], .age),
   (["Grapheme_Cluster_Break", "GCB"], .graphemeBreak), (["Word_Break", "WB"], .wordBreak),
   (["Sentence_Break", "SB"], .sentenceBreak)]

/-- The characters for which a property has the value of a name. -/
def Valued.runs? (valued : Valued) (value : List Char) : Option Runs :=
  match valued with
  | category => category? value
  | script => (scriptCode? value).map inScript
  | scriptExtensions => (scriptCode? value).map usedWithScript
  | age => (version? value).map cameBy
  | graphemeBreak => under? graphemeBreaks value
  | wordBreak => under? wordBreaks value
  | sentenceBreak => under? sentenceBreaks value

/-! ### Queries -/

/-- What is asked for: a property by its name, or a value of a property. -/
inductive Query where
  | named (name : List Char)
  | valued (name value : List Char)
  deriving DecidableEq, Repr

/-- The characters that have a property, if there is one of the name. -/
def Query.runs? : Query → Option Runs
  | named name =>
    let name := loosely name
    match under? traits name with
    | some runs => some runs
    | none =>
      match category? name with
      | some runs => some runs
      | none => (scriptCode? name).map inScript
  | valued name value => do
    let valued ← under? valuedNames (loosely name)
    valued.runs? (loosely value)

end MarkupFeed.Unicode
