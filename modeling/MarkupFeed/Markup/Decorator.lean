import MarkupFeed.Format
import MarkupFeed.Markup.Anchors
import MarkupFeed.Markup.References
import MarkupFeed.Markup.Spans
import MarkupFeed.Markup.Targets

/-!
# Decorators: a tokenizer in front of a renderer

Marks up text on its way to a sink: a tokenizer that reports to a renderer.

What a decorator is in the middle of when a write ends carries over to the next one; `finish`
closes the token that may still be open. A write error ends the rendering of a call, but not the
reading of its input: the tokenizer goes on to the end of the buffer.
-/

namespace MarkupFeed

/-- A machine together with a renderer of its tokens. -/
structure Highlight where
  machine : Machine
  renderer : Renderer machine.Kind

/-- A highlight on its way through a text. -/
structure Decorator where
  highlight : Highlight
  tokenizer : Tokenizer highlight.machine
  rendering : highlight.renderer.State

/-- A highlight before any text. -/
def Highlight.fresh (h : Highlight) : Decorator := ⟨h, .fresh h.machine, h.renderer.start⟩

namespace Decorator

variable {ε τ : Type}

/-- Whether the result needs to be wrapped as a block. -/
def formatted (d : Decorator) : Bool := d.highlight.renderer.formatted

/-- The link targets rendered so far. -/
def links (d : Decorator) : List String := d.highlight.renderer.links d.rendering

/-- Renders what the tokenizer reported. -/
def renderReports (d : Decorator) (sink : Sink ε τ)
    (read : Tokenizer d.highlight.machine × List (Report d.highlight.machine.Kind)) (memory : τ) :
    Outcome ε τ Decorator :=
  let outcome := d.highlight.renderer.run sink d.rendering (Report.events read.2) memory
  ⟨⟨d.highlight, read.1, outcome.state⟩, outcome.sink, outcome.output, outcome.error⟩

/-- Decorates the next part of a text. -/
def decorate (d : Decorator) (sink : Sink ε τ) (input : Bytes) (memory : τ) :
    Outcome ε τ Decorator :=
  d.renderReports sink (d.tokenizer.feed input) memory

/-- Writes what is left of the token in progress. -/
def finish (d : Decorator) (sink : Sink ε τ) (memory : τ) : Outcome ε τ Decorator :=
  d.renderReports sink d.tokenizer.flush memory

/-- Decorates the next part of a text for a sink that takes everything. -/
def pass (d : Decorator) (input : Bytes) : Decorator × Bytes :=
  let outcome := d.decorate Sink.unlimited input ()
  (outcome.state, outcome.output)

/-- Finishes for a sink that takes everything. -/
def drain (d : Decorator) : Decorator × Bytes :=
  let outcome := d.finish Sink.unlimited ()
  (outcome.state, outcome.output)

/-- Decorates consecutive parts of a text for a sink that takes everything, and finishes. -/
def passAll (d : Decorator) : List Bytes → Decorator × Bytes
  | [] => d.drain
  | input :: inputs =>
    let (d, first) := d.pass input
    let (d, rest) := d.passAll inputs
    (d, first ++ rest)

end Decorator

namespace Highlight

/-- What the highlight makes of a text. -/
def apply (h : Highlight) (input : Bytes) : Bytes := (h.fresh.passAll [input]).2

/-- Every token unchanged. -/
def verbatim (format : Format) : Highlight :=
  ⟨format.machine Format.defaultStyle, .verbatim _⟩

/-- Reserved characters as references. -/
def escaper : Highlight := ⟨Escapes.machine, References.renderer⟩

/-- A text with its reserved characters as references. -/
def escaped (text : String) : String := Utf8.decodeLossy (escaper.apply (Utf8.encode text))

/-- Choices for the markup of a format. -/
structure Options where
  /-- Whether token text is escaped. Off for input that is markup already. -/
  escape : Bool := true
  /-- The naming style identifiers of C and C++ are held to. -/
  style : Cpp.Style := Format.defaultStyle
  /-- Whether XML gets its links classified instead of its tokens marked. -/
  checkLinks : Bool := false

/-- The highlight of a format. -/
def ofFormat (format : Format) (options : Options) (site : Site) : Highlight :=
  match format with
  | .cpp => ⟨Cpp.machine options.style, Spans.renderer Cpp.Kind options.escape⟩
  | .xml =>
    if options.checkLinks then ⟨Xml.machine, Targets.renderer site⟩
    else ⟨Xml.machine, Spans.renderer Xml.Kind options.escape⟩
  | .mail => ⟨Mail.machine, Spans.renderer Mail.Kind options.escape⟩
  | .prose => ⟨Prose.machine, Anchors.renderer site⟩
  | .markdown => ⟨Markdown.machine, Spans.renderer Markdown.Kind options.escape⟩
  | .shell => ⟨Shell.machine, Spans.renderer Shell.Kind options.escape⟩
  | .escapes => escaper
  | .diagnostics => ⟨Diagnostics.machine, Spans.renderer Diagnostics.Kind options.escape⟩

end Highlight

end MarkupFeed
