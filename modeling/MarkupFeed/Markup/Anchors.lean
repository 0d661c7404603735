import MarkupFeed.Format.Prose
import MarkupFeed.Link
import MarkupFeed.Markup.References
import MarkupFeed.Text.Utf8

/-!
# Links for file names

Turns the file names mentioned in free text into links, and escapes the rest.
-/

namespace MarkupFeed.Anchors

/-- What the renderer remembers. -/
structure State where
  /-- The octets of the word in progress. -/
  pending : Bytes
  /-- The targets linked so far. -/
  links : List String
  deriving DecidableEq, Repr

/-- The texts of a link, write by write. -/
def anchor (site : Site) (name : String) : List Bytes :=
  [Bytes.ascii "<a href=\""] ++ References.pieces (Utf8.encode (Link.resolve site name))
    ++ [Bytes.ascii "\"", Bytes.ascii (Link.classify site name).attribute, Bytes.ascii ">"]
    ++ References.pieces (Utf8.encode name) ++ [Bytes.ascii "</a>"]

/-- The script of a whole word. A link counts as rendered once all of it is written. -/
def word (site : Site) (links : List String) (kind : Prose.Kind) (text : Bytes) : Script State :=
  let state : State := ⟨[], links⟩
  match kind with
  | .filename =>
    let name := Utf8.decodeLossy text
    ⟨state, (anchor site name).map (·, state) ++ [([], ⟨[], Link.record name links⟩)]⟩
  | _ => .texts state (References.pieces text)

/-- The renderer. -/
def renderer (site : Site) : Renderer Prose.Kind where
  State := State
  start := ⟨[], []⟩
  token state kind text fragment :=
    let whole := state.pending ++ text
    if fragment then .silent { state with pending := whole } else word site state.links kind whole
  newline state text := .texts ⟨[], state.links⟩ (References.pieces state.pending ++ [text])
  links := State.links

end MarkupFeed.Anchors
