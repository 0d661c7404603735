import MarkupFeed.Feed.Html
import MarkupFeed.FileTree
import MarkupFeed.Post.Order
import MarkupFeed.Settings.Value
import MarkupFeed.Text.Utf8

/-!
# The settings of the commands

The settings of the commands. The first layer sets every one of them; files come next, and what is
given on the command line comes last.
-/

namespace MarkupFeed

/-- The settings. -/
structure Settings where
  /-- Whether highlighted text is escaped. -/
  escape : Bool := true
  /-- Whether highlighted text is wrapped as a block. -/
  wrapBlocks : Bool := true
  /-- The naming style of identifiers, as a pattern. -/
  identifierStyle : Option String := none
  /-- The path links are put under. -/
  siteTop : String := ""
  /-- Whether links in markup are checked. -/
  checkLinks : Bool := false
  order : PostOrder := .time
  pageLength : Nat := 20
  layout : Feed.Html.Layout := .divs
  compact : Bool := false
  deriving DecidableEq, Repr

namespace Settings

open Setting

/-- The keys that can be set from the command line. -/
def keys : List String :=
  ["highlight.escape", "highlight.wrap_pre", "cpp.identifier_style", "links.site_top",
   "links.check", "feed.order", "feed.page_length", "feed.layout", "feed.compact"]

/-- The layer that is always there. -/
def defaults : List (String × Toml) :=
  [("highlight", .table .header [("escape", .boolean true), ("wrap_pre", .boolean true)]),
   ("cpp", .table .header []),
   ("links", .table .header [("site_top", .string ""), ("check", .boolean false)]),
   ("feed", .table .header
     [("order", .string "time"), ("page_length", .integer 20), ("layout", .string "divs"),
      ("compact", .boolean false)])]

/-! ### Reading -/

def highlightSection : Section := ⟨"HighlightConfig", "highlight", ["escape", "wrap_pre"], 2⟩

def cppSection : Section := ⟨"CppConfig", "cpp", ["identifier_style"], 0⟩

def linksSection : Section := ⟨"LinksConfig", "links", ["site_top", "check"], 2⟩

def feedSection : Section :=
  ⟨"FeedConfig", "feed", ["order", "page_length", "layout", "compact"], 4⟩

/-- The names of the orders in files. -/
def orders : List (String × PostOrder) := PostOrder.all.map fun order => (order.name, order)

/-- The names of the layouts in files. -/
def layouts : List (String × Feed.Html.Layout) := [("divs", .divs), ("rows", .rows)]

/-- Finds the fields of a section. -/
def lookupIn (entries : Setting.Entries) (s : Section) : Except SettingsError Lookup :=
  match entries.lookup s.key with
  | some setting => toSection s setting
  | none => .error (.missingField s.key)

/-- Reads the settings out of merged layers. -/
def ofEntries (entries : Setting.Entries) : Except SettingsError Settings := do
  let highlight ← lookupIn entries highlightSection
  let escape ← required highlight "escape" toBool
  let wrapBlocks ← required highlight "wrap_pre" toBool
  let cpp ← lookupIn entries cppSection
  let identifierStyle ← optional cpp "identifier_style" toText
  let links ← lookupIn entries linksSection
  let siteTop ← required links "site_top" toText
  let checkLinks ← required links "check" toBool
  let feed ← lookupIn entries feedSection
  let order ← required feed "order" fun _ => toMember "OrderBy" orders
  let pageLength ← required feed "page_length" toWord
  let layout ← required feed "layout" fun _ => toMember "HtmlLayout" layouts
  let compact ← required feed "compact" toBool
  if pageLength = 0 then .error .emptyPages
  else
    .ok { escape, wrapBlocks, identifierStyle, siteTop, checkLinks, order, pageLength, layout,
          compact }

/-! ### Loading -/

/-- The content of a configuration file, and the name it has in messages. The extension may be left
out of its name. -/
def readFile (files : Files) (name : String) : Except SettingsError (String × Bytes) :=
  let shown := "/".intercalate (FilePath.components name)
  match files.read name, files.read (name ++ ".toml") with
  | .ok content, _ => .ok (shown, content)
  | _, .ok content => .ok (shown ++ ".toml", content)
  | _, _ => .error (.noFile name)

/-- Puts a configuration file over the layers before it. -/
def addFile (files : Files) (entries : Setting.Entries) (name : String) :
    Except SettingsError Setting.Entries := do
  let (shown, content) ← readFile files name
  match Toml.parse? (Utf8.decodeLossy content) with
  | some layer => .ok (entries.addLayer shown layer)
  | none => .error (.malformed shown)

/-- Whether a value can be set from the command line. -/
def checkOverride (key : String) : Except SettingsError Unit :=
  if key ∈ keys then .ok () else .error (.unknownKey key)

/-- Loads the settings: files in order, and values that are set last. -/
def load (files : Files) (layers : List String) (overrides : List (String × Toml)) :
    Except SettingsError Settings := do
  overrides.forM fun (key, _) => checkOverride key
  let entries ← layers.foldlM (addFile files) (Setting.Entries.addLayer none defaults [])
  ofEntries (overrides.foldl (fun entries override => entries.addLayer none [override]) entries)

end Settings

end MarkupFeed
