import MarkupFeed.Format.Cpp
import MarkupFeed.Format.Xml
import MarkupFeed.Format.Mail
import MarkupFeed.Format.Prose
import MarkupFeed.Format.Markdown
import MarkupFeed.Format.Shell
import MarkupFeed.Format.Escapes
import MarkupFeed.Format.Diagnostics
import MarkupFeed.FilePath
import MarkupFeed.Pattern
import MarkupFeed.Text.LowerCase
import MarkupFeed.Tokenizer

/-!
# The text formats

The text formats there are, by name and by file name, and the machine of each.
-/

namespace MarkupFeed

/-- A text format. -/
inductive Format where
  | cpp
  | xml
  | mail
  | prose
  | markdown
  | shell
  | escapes
  | diagnostics
  deriving DecidableEq, Repr

namespace Format

/-- All formats, in the order they are listed in. -/
def all : List Format := [cpp, xml, mail, prose, markdown, shell, escapes, diagnostics]

/-- The published name. -/
def name : Format → String
  | cpp => "cpp"
  | xml => "xml"
  | mail => "rfc2822"
  | prose => "href"
  | markdown => "markdown"
  | shell => "sh"
  | escapes => "xml-escape"
  | diagnostics => "diagnostics"

/-- All names, as messages list them. -/
def nameList : String := ", ".intercalate (all.map name)

/-! ### By name -/

/-- A name that no format has. -/
structure Unknown where
  name : String
  deriving DecidableEq, Repr

def Unknown.message (error : Unknown) : String :=
  "unknown language '" ++ error.name ++ "' (expected one of: " ++ nameList ++ ")"

/-- The format of a name, whatever the case of its ASCII letters. -/
def ofName (text : String) : Except Unknown Format :=
  match all.find? fun format => Text.lowerAscii text == format.name with
  | some format => .ok format
  | none => .error ⟨text⟩

/-! ### By file name -/

/-- The format of a file extension in small letters. -/
def ofExtension? (extension : String) : Option Format :=
  if extension ∈ ["c", "cc", "cpp", "cxx", "h", "hh", "hpp", "tcc"] then some cpp
  else if extension ∈ ["xml", "html", "htm", "xhtml", "svg", "rss"] then some xml
  else if extension ∈ ["eml", "mbox", "mail"] then some mail
  else if extension ∈ ["md", "markdown"] then some markdown
  else if extension ∈ ["sh", "bash", "py", "mk", "am", "ac", "cfg", "conf"] then some shell
  else if extension ∈ ["txt", "text"] then some prose
  else if extension ∈ ["log", "err"] then some diagnostics
  else none

/-- The format a file has by its name. -/
def ofPath? (path : String) : Option Format := do
  let name ← FilePath.fileName? path
  if name ∈ ["Makefile", "makefile", "GNUmakefile"] then some shell
  else ofExtension? (Text.lowerAscii (← FilePath.extension? path))

/-! ### Machines -/

/-- Lower camel case: `^[a-z0-9]+([A-Z][a-z0-9]+)*$`. -/
def lowerCamelCase : Pattern :=
  let small := Pattern.plus (.one (.ofRanges [('0', '9'), ('a', 'z')]))
  .sequence [.anchor .textStart, small,
    .star (.sequence [.one (.range 'A' 'Z'), small]), .anchor .textEnd]

/-- The naming style identifiers are held to when none is chosen. -/
def defaultStyle : Cpp.Style := lowerCamelCase.occursIn

/-- The machine of a format. Only C and C++ know a naming style. -/
def machine (style : Cpp.Style) : Format → Machine
  | cpp => Cpp.machine style
  | xml => Xml.machine
  | mail => Mail.machine
  | prose => Prose.machine
  | markdown => Markdown.machine
  | shell => Shell.machine
  | escapes => Escapes.machine
  | diagnostics => Diagnostics.machine

/-- A merged token or line end, with the title for its kind. -/
structure Lexeme where
  title : String
  text : String
  /-- Whether a line end interrupts the token. -/
  fragment : Bool
  deriving DecidableEq, Repr

/-- The lexemes of an input read in buffers of `size` octets. -/
def lexemes (format : Format) (size : Nat) (input : Bytes) : List Lexeme :=
  (Event.merged ((format.machine defaultStyle).events (Bytes.chunks size input))).map fun event =>
    ⟨event.title, Utf8.decodeLossy event.text, event.isFragment⟩

end Format

end MarkupFeed
