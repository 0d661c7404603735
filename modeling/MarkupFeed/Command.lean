import MarkupFeed.DiagnosticTable
import MarkupFeed.Feed.Intake
import MarkupFeed.Feed.Writer
import MarkupFeed.Json
import MarkupFeed.Markup.Decorator
import MarkupFeed.Markup.Trace
import MarkupFeed.Pattern.Parser
import MarkupFeed.Settings

/-!
# Commands

What can be done to a file: list its tokens, highlight it, make a table of the diagnostics in it, or
turn the mailbox it holds into a feed. Each command reads its file first and gives the octets to
print.
-/

namespace MarkupFeed

/-- Why a command failed. -/
inductive CommandError where
  | unreadable (path : String) (cause : ReadError)
  | unknownFormat (error : Format.Unknown)
  /-- No format is given, and the name of the file does not tell. -/
  | untoldFormat (path : String)
  /-- What is asked for is not among the outputs of the command: what they are called, and what they
  are. -/
  | unknownOutput (title asked : String) (known : String)
  /-- The naming style is no pattern. -/
  | badStyle (style : String)
  /-- A setting of the command line cannot be set. -/
  | badOverride (key : String) (cause : SettingsError)
  | badSettings (cause : SettingsError)
  | badFeed (cause : Feed.Failure Empty)

namespace CommandError

def message : CommandError → String
  | unreadable path cause => "Cannot read " ++ path ++ ": " ++ cause.message
  | unknownFormat error => error.message
  | untoldFormat path =>
    "Cannot tell the language of " ++ path ++ "; pass --lang (" ++ Format.nameList ++ ")"
  | unknownOutput title asked known =>
    title ++ " '" ++ asked ++ "' not supported; available " ++ known
  | badStyle style => "Invalid cpp.identifier_style: " ++ style
  | badOverride key cause => "Invalid setting for " ++ key ++ ": " ++ cause.message
  | badSettings cause => "Failed to load configuration: " ++ cause.message
  | badFeed cause => "Feed failed: " ++ cause.message nofun

end CommandError

namespace Command

/-- The content of a file. -/
def read (files : Files) (path : String) : Except CommandError Bytes :=
  (files.read path).mapError (.unreadable path)

/-- The format of a file: the one given, or else the one its name tells. -/
def formatOf (path : String) (given : Option String) : Except CommandError Format :=
  match given with
  | some name => (Format.ofName name).mapError .unknownFormat
  | none => (Format.ofPath? path).elim (.error (.untoldFormat path)) .ok

/-- The settings of the default layer, a file and the command line. -/
def loadSettings (files : Files) (file : Option String) (overrides : List (String × String)) :
    Except CommandError Settings :=
  match overrides.find? fun (key, _) => key ∉ Settings.keys with
  | some (key, _) => .error (.badOverride key (.unknownKey key))
  | none =>
    (Settings.load files file.toList
      (overrides.map fun (key, value) => (key, .string value))).mapError .badSettings

/-! ### Tokens -/

/-- The outputs of a list of tokens. -/
def tokenOutputs : List String := ["json", "simple", "annotate"]

/-- A token as a value for exchange. -/
def lexemeJson (lexeme : Format.Lexeme) : Json :=
  .object ([("kind", .text lexeme.title), ("text", .text lexeme.text)]
    ++ if lexeme.fragment then [("fragment", .bool true)] else [])

/-- A token on a line of its own. -/
def lexemeLine (lexeme : Format.Lexeme) : String :=
  lexeme.title ++ " " ++ Text.quoted lexeme.text ++ "\n"

/-- Lists the tokens of a file that is read in buffers of `size` octets. -/
def tokens (files : Files) (path : String) (format : Option String) (output : String) (size : Nat) :
    Except CommandError Bytes := do
  let input ← read files path
  let format ← formatOf path format
  match output with
  | "json" =>
    return Utf8.encode ((Json.array ((format.lexemes size input).map lexemeJson)).pretty ++ "\n")
  | "simple" =>
    return (format.lexemes size input).flatMap fun lexeme => Utf8.encode (lexemeLine lexeme)
  | "annotate" =>
    return Trace.ofReports ((format.machine Format.defaultStyle).reports (Bytes.chunks size input))
  | _ =>
    .error (.unknownOutput "Format" output ("formats: " ++ ", ".intercalate tokenOutputs))

/-! ### Highlighting -/

/-- The naming style of the settings. -/
def styleOf (settings : Settings) : Except CommandError Cpp.Style :=
  match settings.identifierStyle with
  | none => .ok Format.defaultStyle
  | some style =>
    match Pattern.parse? style with
    | some pattern => .ok pattern.occursIn
    | none => .error (.badStyle style)

/-- A file ready to be highlighted. -/
structure Highlighting where
  input : Bytes
  format : Format
  options : Highlight.Options

/-- Reads a file that is to be highlighted. -/
def highlighting (files : Files) (path : String) (format : Option String) (settings : Settings) :
    Except CommandError Highlighting := do
  let input ← read files path
  let format ← formatOf path format
  let style ← styleOf settings
  return ⟨input, format, { escape := settings.escape, style, checkLinks := settings.checkLinks }⟩

/-- The decorator of a whole text once it has finished, and what it wrote. -/
def Highlighting.run (h : Highlighting) (site : Site) : Decorator × Bytes :=
  (Highlight.ofFormat h.format h.options site).fresh.passAll [h.input]

/-- What is printed for a highlighted text. -/
def wrap (settings : Settings) (formatted : Bool) (body : Bytes) : Bytes :=
  if formatted && settings.wrapBlocks then
    Bytes.ascii "<pre>" ++ body ++ Bytes.ascii "</pre>\n"
  else body

/-- Highlights a file. Local links are looked up in its directory. -/
def highlight (files : Files) (path : String) (format : Option String) (settings : Settings) :
    Except CommandError Bytes :=
  (highlighting files path format settings).map fun h =>
    let site := Site.ofDirectory settings.siteTop (FilePath.parent path) files.exist
    wrap settings (h.run site).1.formatted (h.run site).2

/-- The paths that highlighting a file asks about. Which links a text has does not depend on what
exists. -/
def highlightQuestions (files : Files) (path : String) (format : Option String)
    (settings : Settings) : List String :=
  match highlighting files path format settings with
  | .error _ => []
  | .ok h =>
    let site := Site.ofDirectory settings.siteTop (FilePath.parent path) fun _ => false
    (h.run site).1.links.filterMap fun target =>
      Site.question? (FilePath.parent path) (Link.lookupPath target)

/-! ### Diagnostics -/

/-- A row as a value for exchange. -/
def diagnosticJson (row : Diagnostic) : Json :=
  let number (n : Option UInt32) : Json := n.elim .null fun n => .number n.toNat
  .object [("file", .text row.file), ("line", number row.line), ("column", number row.column),
    ("message", .text row.message)]

/-- Makes a table of the diagnostics in a log. -/
def errors (files : Files) (path output : String) : Except CommandError Bytes := do
  let table := DiagnosticTable.ofBuffers [← read files path]
  match output with
  | "json" => return Utf8.encode ((Json.array (table.rows.map diagnosticJson)).pretty ++ "\n")
  | "html" => return Bytes.ascii "<table>\n" ++ table.html ++ Bytes.ascii "</table>\n"
  | _ => .error (.unknownOutput "Target" output "targets: html, json")

/-! ### Feeds -/

/-- The outputs of a feed. -/
def feedOutputs : List String := ["html", "rows", "mail", "rss", "json", "index"]

/-- What is asked of a feed beside the settings. -/
structure FeedRequest where
  output : String := "html"
  page : Nat := 0
  /-- The keys of the posts to show; all, if there is none. -/
  select : List String := []
  title : String := ""
  deriving DecidableEq, Repr

/-- Which posts of a mailbox are shown. -/
def policy (settings : Settings) (request : FeedRequest) : Policy :=
  let ordered := Policy.everything.ordered settings.order
  let compacted := if settings.compact then ordered.compacted else ordered
  let selected :=
    if request.select.isEmpty then compacted else compacted.selected settings.order request.select
  selected.paginated request.page settings.pageLength

/-- Sends the posts of a mailbox that can be published through stages into a channel. -/
def publish {ε σ : Type} (channel : Feed.Channel ε σ) (stages : List Feed.Stage) (state : σ)
    (input : Bytes) : Except ε (Feed.Pipeline σ) :=
  let read := Feed.Intake.read channel { pipeline := ⟨.validOnly :: stages, state⟩ } input
  match read.error with
  | some error => .error error
  | none =>
    let flushed := read.state.pipeline.flush channel
    flushed.error.elim (.ok flushed.state) .error

/-- A mailbox in a form. -/
def written (form : Feed.Form) (policy : Policy) (input : Bytes) : Except CommandError Bytes :=
  ((publish (Feed.Writer.channel Sink.unlimited form) [.retaining policy]
    { memory := () } input).map fun pipeline => pipeline.state.output).mapError .badFeed

/-- The counts of the last stage that counts. -/
def countsOf (stages : List Feed.Stage) : Feed.Counts :=
  match stages.getLast? with
  | some (.counting _ counts _) => counts
  | _ => []

/-- How many posts of a mailbox there are for each key of an order. -/
def counts (order : PostOrder) (input : Bytes) : Feed.Counts :=
  match publish Feed.Collected.channel [.retaining .everything, .counter order] {} input with
  | .ok pipeline => countsOf pipeline.stages
  | .error error => nomatch error

/-- A key and its count on a line of their own. -/
def countLine (key : String) (count : Nat) : Bytes :=
  Utf8.encode (key ++ "\t" ++ toString count ++ "\n")

/-- Turns a mailbox into a feed. -/
def feed (files : Files) (path : String) (settings : Settings) (request : FeedRequest) :
    Except CommandError Bytes := do
  let input ← read files path
  let policy := policy settings request
  match request.output with
  | "html" => written (.html settings.layout) policy input
  | "rows" => written (.html .rows) policy input
  | "mail" => written .mail policy input
  | "rss" =>
    let items ← written .rss policy input
    return Feed.Rss.channelHead request.title settings.siteTop request.title ++ items
      ++ Feed.Rss.channelTail
  | "json" => written .json policy input
  | "index" => return (counts settings.order input).flatMap fun (key, count) => countLine key count
  | _ =>
    .error (.unknownOutput "Target" request.output ("targets: " ++ ", ".intercalate feedOutputs))

end Command

end MarkupFeed
