import MarkupFeed.Format.Xml
import MarkupFeed.Link
import MarkupFeed.Markup.Renderer
import MarkupFeed.Text.Utf8

/-!
# Marks behind `href` attributes

Lets XML through and marks the value of every `href` attribute with the class
of the target it names.
-/

namespace MarkupFeed.Targets

/-- What the renderer remembers. -/
structure State where
  /-- Whether the last name was `href`, and its value is still to come. -/
  awaiting : Bool
  /-- The octets of the token in progress. -/
  pending : Bytes
  /-- The targets found so far. -/
  links : List String
  deriving DecidableEq, Repr

/-- The text between the quotes of an attribute value. -/
def valueOf (text : Bytes) : String := Utf8.decodeLossy (text.drop 1).dropLast

/-- What a whole token changes, and what is still to be written after it. -/
def complete (site : Site) (state : State) (kind : Xml.Kind) (text : Bytes) :
    State × List (Bytes × State) :=
  match kind with
  | .declStart | .declEnd => ({ state with awaiting := false }, [])
  | .name => ({ state with awaiting := Bytes.eqIgnoringCase text (Bytes.ascii "href") }, [])
  | .attValue =>
    if state.awaiting then
      let value := valueOf text
      let next := { state with awaiting := false }
      (next, [(Bytes.ascii (Link.classify site value).attribute,
        { next with links := Link.record value state.links })])
    else (state, [])
  | _ => (state, [])

/-- The renderer. -/
def renderer (site : Site) : Renderer Xml.Kind where
  State := State
  start := ⟨false, [], []⟩
  token state kind text fragment :=
    let whole := state.pending ++ text
    if fragment then ⟨state, [(text, { state with pending := whole })]⟩
    else
      match complete site { state with pending := [] } kind whole with
      | (next, writes) => ⟨state, (text, next) :: writes⟩
  newline state text :=
    .texts { state with pending := if state.pending.isEmpty then [] else state.pending ++ text }
      [text]
  formatted := false
  links := State.links

end MarkupFeed.Targets
