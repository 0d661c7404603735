import MarkupFeed.Format.Escapes
import MarkupFeed.Markup.Renderer
import MarkupFeed.Tokenizer

/-!
# Reserved characters as references

The renderer of the escaping machine, which writes reserved characters as references and data as
it is. Other renderers escape the text of their tokens with an escaper of its own, one text at a
time: `pieces` are the writes this comes to.
-/

namespace MarkupFeed.References

/-- What is written for a token of a kind. -/
def shown (kind : Escapes.Kind) (text : Bytes) : Bytes :=
  match kind with
  | .ampersand => Bytes.ascii "&amp;"
  | .less => Bytes.ascii "&lt;"
  | .greater => Bytes.ascii "&gt;"
  | .quote => Bytes.ascii "&quot;"
  | .data | .error => text

/-- What is written for an event. -/
def shownEvent : Event Escapes.Kind → Bytes
  | .token kind text _ => shown kind text
  | .newline text => text

/-- The texts to write for an escaped text: one for every event of the escaping machine from the
first octet of the text to its end. -/
def pieces (text : Bytes) : List Bytes := (Escapes.machine.events [text]).map shownEvent

/-- The renderer. -/
def renderer : Renderer Escapes.Kind where
  State := Unit
  start := ()
  token _ kind text _ := .texts () [shown kind text]
  newline _ text := .texts () [text]
  formatted := false

end MarkupFeed.References
