import MarkupFeed.Event
import MarkupFeed.Sink

/-!
# Renderers: from events to writes

Turns the events of a tokenizer into text with markup around the tokens.

A renderer answers each event with a script of writes. `run` performs the scripts of consecutive
events on a sink; once a write has failed, the events that remain are dropped. `output` is what
an unlimited sink receives.
-/

namespace MarkupFeed

/-- Writes markup for events with tokens of kinds `κ`. -/
structure Renderer (κ : Type) where
  /-- What the renderer remembers between events. -/
  State : Type
  /-- What it remembers before the first event. -/
  start : State
  /-- Renders a piece of a token. -/
  token : State → κ → Bytes → Bool → Script State
  /-- Renders a line end. -/
  newline : State → Bytes → Script State
  /-- Whether the result needs to be wrapped as a block, as by `<pre>`. -/
  formatted : Bool := true
  /-- The link targets rendered so far. -/
  links : State → List String := fun _ => []

namespace Renderer

variable {κ ε τ : Type}

/-- Renders an event. -/
def render (r : Renderer κ) (state : r.State) : Event κ → Script r.State
  | .token kind text fragment => r.token state kind text fragment
  | .newline text => r.newline state text

/-- Renders consecutive events, up to the first write that fails. -/
def run (r : Renderer κ) (sink : Sink ε τ) :
    r.State → List (Event κ) → τ → Outcome ε τ r.State
  | state, [], memory => ⟨state, memory, [], none⟩
  | state, event :: events, memory =>
    let outcome := (r.render state event).run sink memory
    if outcome.error.isSome then outcome
    else
      let rest := r.run sink outcome.state events outcome.sink
      { rest with output := outcome.output ++ rest.output }

/-! ### Simple renderers -/

/-- Copies every token unchanged. -/
def verbatim (κ : Type) : Renderer κ where
  State := Unit
  start := ()
  token _ _ text _ := .texts () [text]
  newline _ text := .texts () [text]
  formatted := false

end Renderer

end MarkupFeed
