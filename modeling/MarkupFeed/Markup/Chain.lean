import MarkupFeed.Markup.Decorator

/-!
# Chains of decorators

Several decorators as one.

The decorator pushed last sees the text first, and what it writes is the text of the one pushed
before it. Finishing starts from the top: what the top decorator still had to write goes through
all those beneath it before they are finished in turn. Only the output of the whole chain reaches
the sink.
-/

namespace MarkupFeed

/-- Decorators on top of each other, the top one first. -/
structure Chain where
  members : List Decorator

namespace Chain

variable {ε τ : Type}

/-- No decorator. -/
def empty : Chain := ⟨[]⟩

/-- Puts a decorator on top. -/
def push (chain : Chain) (d : Decorator) : Chain := ⟨d :: chain.members⟩

/-- Puts decorators on top of each other, the first one at the bottom. -/
def ofList (decorators : List Decorator) : Chain := ⟨decorators.reverse⟩

/-- The number of decorators. -/
def size (chain : Chain) : Nat := chain.members.length

/-- Whether one of the decorators calls for wrapping. -/
def formatted (chain : Chain) : Bool := chain.members.any Decorator.formatted

/-- Sends a text through decorators from the top one down. -/
def pass : List Decorator → Bytes → List Decorator × Bytes
  | [], input => ([], input)
  | top :: below, input =>
    let (top, text) := top.pass input
    let (below, text) := pass below text
    (top :: below, text)

/-- Writes a text that left the chain, for an author who remembers `state`. -/
def emit (sink : Sink ε τ) (state : List Decorator) (text : Bytes) (memory : τ) :
    Outcome ε τ (List Decorator) :=
  let outcome := (Script.texts () [text]).run sink memory
  ⟨state, outcome.sink, outcome.output, outcome.error⟩

/-- Finishes decorators from the top one down, up to the first write error. -/
def finishAll (sink : Sink ε τ) : List Decorator → τ → Outcome ε τ (List Decorator)
  | [], memory => ⟨[], memory, [], none⟩
  | top :: below, memory =>
    let (top, tail) := top.drain
    let passed := pass below tail
    let outcome := emit sink passed.1 passed.2 memory
    if outcome.error.isSome then { outcome with state := top :: outcome.state }
    else
      let rest := finishAll sink passed.1 outcome.sink
      { rest with state := top :: rest.state, output := outcome.output ++ rest.output }
termination_by decorators => decorators.length
decreasing_by
  have h : ∀ (ds : List Decorator) (input : Bytes), (pass ds input).1.length = ds.length := by
    intro ds
    induction ds with
    | nil => intro _; rfl
    | cons d ds ih => intro input; simp [pass, ih]
  simp [h]

/-- Decorates the next part of a text. -/
def decorate (chain : Chain) (sink : Sink ε τ) (input : Bytes) (memory : τ) :
    Outcome ε τ Chain :=
  let passed := pass chain.members input
  let outcome := emit sink passed.1 passed.2 memory
  { outcome with state := ⟨outcome.state⟩ }

/-- Writes what is left of the tokens in progress. -/
def finish (chain : Chain) (sink : Sink ε τ) (memory : τ) : Outcome ε τ Chain :=
  let outcome := finishAll sink chain.members memory
  { outcome with state := ⟨outcome.state⟩ }

end Chain

/-- A decorator on its own, or a chain. -/
inductive Decoration where
  | single (decorator : Decorator)
  | chain (decorators : Chain)

namespace Decoration

variable {ε τ : Type}

/-- Whether the result needs to be wrapped as a block. -/
def formatted : Decoration → Bool
  | single decorator => decorator.formatted
  | chain decorators => decorators.formatted

/-- The link targets rendered so far, ascending. -/
def links : Decoration → List String
  | single decorator => decorator.links
  | chain decorators => Link.recordAll (decorators.members.map Decorator.links)

/-- Decorates the next part of a text. -/
def decorate (d : Decoration) (sink : Sink ε τ) (input : Bytes) (memory : τ) :
    Outcome ε τ Decoration :=
  match d with
  | single decorator =>
    let outcome := decorator.decorate sink input memory
    { outcome with state := single outcome.state }
  | chain decorators =>
    let outcome := decorators.decorate sink input memory
    { outcome with state := chain outcome.state }

/-- Writes what is left of the tokens in progress. -/
def finish (d : Decoration) (sink : Sink ε τ) (memory : τ) : Outcome ε τ Decoration :=
  match d with
  | single decorator =>
    let outcome := decorator.finish sink memory
    { outcome with state := single outcome.state }
  | chain decorators =>
    let outcome := decorators.finish sink memory
    { outcome with state := chain outcome.state }

/-- How a decoration is taken off its sink again. -/
inductive Release where
  /-- With the error of finishing, if there is one. -/
  | detach
  /-- Without a word about errors. -/
  | drop
  deriving DecidableEq, Repr

/-- Decorates parts of a text up to the first write error. A part of no octets is not written. -/
def writeAll (sink : Sink ε τ) : Decoration → List Bytes → τ → Outcome ε τ Decoration
  | d, [], memory => ⟨d, memory, [], none⟩
  | d, part :: parts, memory =>
    if part.isEmpty then writeAll sink d parts memory
    else
      let outcome := d.decorate sink part memory
      if outcome.error.isSome then outcome
      else
        let rest := writeAll sink outcome.state parts outcome.sink
        { rest with output := outcome.output ++ rest.output }

/-- Puts the decoration on a sink, writes parts of a text to it, and takes it off again. What is
left of the token in progress is written in any case. -/
def attach (d : Decoration) (sink : Sink ε τ) (parts : List Bytes) (release : Release)
    (memory : τ) : Outcome ε τ Decoration :=
  let written := writeAll sink d parts memory
  let finished := written.state.finish sink written.sink
  { finished with
    output := written.output ++ finished.output
    error := written.error.or (match release with
      | .detach => finished.error
      | .drop => none) }

end Decoration

end MarkupFeed
