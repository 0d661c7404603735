import MarkupFeed.Markup.Anchors
import MarkupFeed.Markup.References
import MarkupFeed.Markup.Spans
import MarkupFeed.Markup.Targets
import MarkupFeed.Markup.Entity
import MarkupFeed.Proofs.Format.Steady
import MarkupFeed.Proofs.Sink
import MarkupFeed.Proofs.Tokenizer.Coverage
import MarkupFeed.Proofs.Tokenizer.Invariant

/-!
# Rendering tokens that come in pieces

What the renderers write does not show how a token was cut into pieces.

`Renderer.rendered` is what rendering comes to for a sink that takes everything. Three of the
renderers take a fragment and the piece after it as they would take the two as one piece
(`Renderer.Merges`), and so render merged events as they render all of them
(`Renderer.Merges.rendered_merged`). References do not: they write a piece at once, under the
provisional kind of its token. That this is right lies in the machine they are driven by, which
reports reserved characters one by one and as nothing but what they are (`Escapes.keeps`); so
references come to the escaped octets of the events, whatever the pieces
(`References.rendered_events`).
-/

namespace MarkupFeed

namespace Renderer

variable {κ : Type} (r : Renderer κ)

/-- What a renderer remembers after some events and what it writes for them, when nothing keeps it
from writing. -/
def rendered : r.State → List (Event κ) → r.State × Bytes
  | state, [] => (state, [])
  | state, event :: events =>
    let script := r.render state event
    ((rendered script.final events).1, script.output ++ (rendered script.final events).2)

theorem run_unlimited (state : r.State) (events : List (Event κ)) :
    r.run Sink.unlimited state events ()
      = ⟨(r.rendered state events).1, (), (r.rendered state events).2, none⟩ := by
  induction events generalizing state with
  | nil => rfl
  | cons event events ih =>
    simp only [run, rendered, Script.run_unlimited, ih, Option.isSome_none, Bool.false_eq_true,
      if_false]

theorem rendered_append (state : r.State) (events more : List (Event κ)) :
    r.rendered state (events ++ more)
      = ((r.rendered (r.rendered state events).1 more).1,
          (r.rendered state events).2 ++ (r.rendered (r.rendered state events).1 more).2) := by
  induction events generalizing state with
  | nil => rfl
  | cons event events ih => simp [rendered, ih, List.append_assoc]

theorem rendered_congr_left {state : r.State} {events events' : List (Event κ)}
    (h : r.rendered state events = r.rendered state events') (more : List (Event κ)) :
    r.rendered state (events ++ more) = r.rendered state (events' ++ more) := by
  rw [rendered_append, rendered_append, h]

theorem rendered_congr_right (state : r.State) (events : List (Event κ))
    {more more' : List (Event κ)} (h : ∀ state, r.rendered state more = r.rendered state more') :
    r.rendered state (events ++ more) = r.rendered state (events ++ more') := by
  rw [rendered_append, rendered_append, h]

/-! ### Renderers that put pieces together -/

/-- A fragment and the piece after it are rendered as one piece, of the kind of the latter. -/
def Merges (r : Renderer κ) : Prop :=
  ∀ (state : r.State) (kind kind' : κ) (text text' : Bytes) (fragment : Bool),
    r.rendered state [.token kind text true, .token kind' text' fragment]
      = r.rendered state [.token kind' (text ++ text') fragment]

variable {r}

/-- An open run is rendered as part of the piece after it. -/
theorem Merges.rendered_open (h : r.Merges) (state : r.State) (run : Option (κ × Bytes))
    (kind : κ) (text : Bytes) (fragment : Bool) :
    r.rendered state (Event.interrupted run ++ [.token kind text fragment])
      = r.rendered state [.token kind (run.elim [] Prod.snd ++ text) fragment] := by
  cases run with
  | none => rfl
  | some open_ => exact h state open_.1 kind open_.2 text fragment

theorem Merges.rendered_mergedAfter (h : r.Merges) (state : r.State) (run : Option (κ × Bytes))
    (events : List (Event κ)) :
    r.rendered state (Event.mergedAfter run events)
      = r.rendered state (Event.interrupted run ++ events) := by
  -- `run` is what merging holds back, and what rendering is in the middle of
  fun_induction Event.mergedAfter run events generalizing state with
  | case1 run => rw [List.append_nil]
  | case2 run kind text rest whole ih =>
    -- the run goes on
    rw [ih, List.append_cons]
    exact (r.rendered_congr_left (h.rendered_open state run kind text true) rest).symm
  | case3 run kind text fragment rest whole hlast ih =>
    -- a last piece ends the run
    obtain rfl : fragment = false := Bool.not_eq_true _ ▸ hlast
    rw [List.append_cons,
      r.rendered_congr_left (h.rendered_open state run kind text false) rest]
    exact r.rendered_congr_right state [.token kind whole false] ih
  | case4 run text rest ih =>
    -- a line end cuts the run off
    exact r.rendered_congr_right state _ (r.rendered_congr_right · [.newline text] ih)

/-- Rendering does not show which pieces merging put together. -/
theorem Merges.rendered_merged (h : r.Merges) (state : r.State) (events : List (Event κ)) :
    r.rendered state (Event.merged events) = r.rendered state events :=
  h.rendered_mergedAfter state none events

end Renderer

theorem Renderer.merges_verbatim (κ : Type) : (Renderer.verbatim κ).Merges := by
  intro state kind kind' text text' fragment
  simp [Renderer.rendered, Renderer.render, Renderer.verbatim, Script.texts]

/-- Spans wait for the last piece of a token. -/
theorem Spans.merges_renderer {κ : Type} [TokenKind κ] (escaped : Bool) :
    (Spans.renderer κ escaped).Merges := by
  intro state kind kind' text text' fragment
  cases fragment <;> simp [Renderer.rendered, Renderer.render, Spans.renderer, Script.silent]

/-- Anchors wait for the last piece of a word. -/
theorem Anchors.merges_renderer (site : Site) : (Anchors.renderer site).Merges := by
  intro state kind kind' text text' fragment
  cases fragment <;> simp [Renderer.rendered, Renderer.render, Anchors.renderer, Script.silent]

namespace Targets

variable (site : Site) (state : (renderer site).State) (kind : Xml.Kind) (text : Bytes)

theorem rendered_fragment :
    (renderer site).rendered state [.token kind text true]
      = (({ state with pending := state.pending ++ text } : State), text) :=
  Prod.ext rfl ((List.append_nil _).trans (List.append_nil _))

theorem rendered_last :
    (renderer site).rendered state [.token kind text false]
      = let completed := complete site { state with pending := [] } kind (state.pending ++ text)
        (Script.final ⟨completed.1, completed.2⟩,
          text ++ Script.output ⟨completed.1, completed.2⟩) :=
  Prod.ext (Script.final_cons state _ text _) (List.append_nil _)

/-- Targets write every piece at once, and judge a token by all of its octets. -/
theorem merges_renderer : (renderer site).Merges := by
  intro state kind kind' text text' fragment
  have hpending : state.pending ++ text ++ text' = state.pending ++ (text ++ text') :=
    List.append_assoc _ _ _
  rw [← List.singleton_append, Renderer.rendered_append, rendered_fragment]
  cases fragment with
  | true =>
    rw [rendered_fragment, rendered_fragment, hpending]
    rfl
  | false =>
    rw [rendered_last, rendered_last, hpending]
    exact congrArg (Prod.mk _) (List.append_assoc _ _ _).symm

end Targets

/-! ### References -/

namespace References

theorem rendered_eq_flatMap (state : renderer.State) (events : List (Event Escapes.Kind)) :
    renderer.rendered state events = (state, events.flatMap shownEvent) := by
  induction events generalizing state with
  | nil => rfl
  | cons event events ih =>
    have hevent : (renderer.render state event).output = shownEvent event := by
      cases event <;> exact List.append_nil _
    show (_, (renderer.render state event).output ++ _) = _
    rw [hevent, ih]
    rfl

theorem reference_of_not_reserved {b : UInt8} (h : Escapes.Kind.reserved? b = none) :
    Entity.reference b = [b] := by
  unfold Escapes.Kind.reserved? at h
  grind [Entity.reference]

theorem escape_of_not_reserved {text : Bytes}
    (h : ∀ b ∈ text, Escapes.Kind.reserved? b = none) : Entity.escape text = text := by
  induction text with
  | nil => rfl
  | cons b text ih =>
    rw [List.forall_mem_cons] at h
    rw [Entity.escape, List.flatMap_cons, reference_of_not_reserved h.1]
    exact congrArg (b :: ·) (ih h.2)

theorem shown_of_reserved {b : UInt8} {kind : Escapes.Kind}
    (h : Escapes.Kind.reserved? b = some kind) : shown kind [b] = Entity.escape [b] := by
  unfold Escapes.Kind.reserved? at h
  grind [Entity.escape, Entity.reference, shown]

/-- What is written for the event are its octets, escaped. -/
def IsEscaped (event : Event Escapes.Kind) : Prop := shownEvent event = Entity.escape event.text

theorem flatMap_shownEvent {events : List (Event Escapes.Kind)}
    (h : ∀ event ∈ events, IsEscaped event) :
    events.flatMap shownEvent = Entity.escape (Event.source events) := by
  induction events with
  | nil => rfl
  | cons event events ih =>
    rw [List.forall_mem_cons] at h
    rw [List.flatMap_cons, h.1, ih h.2, ← Entity.escape_append]
    rfl

end References

namespace Escapes

/-- Where the machine may stand with octets not yet reported: in a run of data with octets that
are not reserved, or between tokens with none. A reserved character is reported at once. -/
def IsRun : State → Bytes → Prop
  | .idle, piece => piece = []
  | .data, piece => ∀ b ∈ piece, Kind.reserved? b = none
  | .reserved _, _ => False

/-- Data goes on with an octet that is not reserved, and with no other. -/
theorem of_step_shift {s next : State} {b : UInt8} (h : s.step b = .shift next) :
    next = .data ∧ Kind.reserved? b = none := by
  cases s <;> grind [State.step]

/-- Between tokens, a reserved character is a token by itself. -/
theorem of_step_accept {s next : State} {b : UInt8} (h : s.step b = .accept next) :
    s ≠ .data ∧ ∃ kind, next = .reserved kind ∧ Kind.reserved? b = some kind := by
  cases s <;> grind [State.step]

theorem of_step_reject {s next : State} {b : UInt8} (h : s.step b = .reject next) :
    s ≠ .idle ∧ next = s := by
  cases s <;> grind [State.step]

theorem IsRun.forall_mem {s : State} {piece : Bytes} (h : IsRun s piece) :
    ∀ b ∈ piece, Kind.reserved? b = none := by
  cases s with
  | idle => rw [show piece = [] from h]; exact List.forall_mem_nil _
  | data => exact h
  | reserved => exact h.elim

/-- Data is written as it is, and nothing in it is reserved. -/
theorem IsRun.isEscaped {s : State} {piece : Bytes} (h : IsRun s piece) (fragment : Bool) :
    References.IsEscaped (.token s.kind piece fragment) := by
  have hpiece := (References.escape_of_not_reserved h.forall_mem).symm
  cases s with
  | idle => exact hpiece
  | data => exact hpiece
  | reserved => exact h.elim

/-- Every piece of a token the machine reports has the kind its octets call for, whether it is the
last one or not. -/
theorem keeps : machine.Keeps IsRun References.IsEscaped where
  start := rfl
  shift h hstep := by
    obtain ⟨rfl, hb⟩ := of_step_shift hstep
    intro x hx
    rcases List.mem_append.mp hx with hx | hx
    · exact h.forall_mem x hx
    · exact List.mem_singleton.mp hx ▸ hb
  accept {s piece b next} h hstep := by
    obtain ⟨hdata, kind, rfl, hb⟩ := of_step_accept hstep
    -- a reserved character stands alone in its token
    have hpiece : piece = [] := by
      cases s with
      | idle => exact h
      | data => exact absurd rfl hdata
      | reserved => exact h.elim
    rw [hpiece]
    exact ⟨References.shown_of_reserved hb, rfl⟩
  reject h _ hstep := by
    obtain ⟨-, rfl⟩ := of_step_reject hstep
    exact ⟨h.isEscaped false, rfl⟩
  refuse _ hidle hstep := absurd (beq_iff_eq.mp hidle) (of_step_reject hstep).1
  close h _ := ⟨h.isEscaped false, rfl⟩
  interrupt h _ _ := h.isEscaped true
  drop {s piece} h := by
    cases s with
    | idle => rfl
    | data => exact List.forall_mem_nil _
    | reserved => exact h
  newline {s text} h htext := by
    have hplain : ∀ b ∈ text, Kind.reserved? b = none := by
      intro b hb
      rcases Bytes.eq_or_eq_of_mem_lineEnds htext hb with rfl | rfl <;> rfl
    exact ⟨(References.escape_of_not_reserved hplain).symm, h⟩
  join _ _ hjoins := absurd hjoins (by decide)

end Escapes

namespace References

/-- Whatever pieces its input comes to, the escaping machine has it written with the reserved
characters as references. -/
theorem rendered_events (state : renderer.State) (buffers : List Bytes) :
    renderer.rendered state (Escapes.machine.events buffers)
      = (state, Entity.escape (Event.source (Escapes.machine.events buffers))) := by
  have hescaped := flatMap_shownEvent (Escapes.keeps.forall_mem_events buffers)
  exact (rendered_eq_flatMap state _).trans (congrArg (Prod.mk state) hescaped)

/-- The writes of an escaped text come to the text with its reserved characters as references. -/
theorem flatten_pieces (text : Bytes) : (pieces text).flatten = Entity.escape text := by
  have hm : Escapes.machine.IsSteady := Format.isSteady_machine Format.defaultStyle .escapes
  have hescaped := flatMap_shownEvent (Escapes.keeps.forall_mem_events [text])
  have hsource : Event.source (Escapes.machine.events [text]) = text :=
    (Machine.source_events hm [text]).trans (List.append_nil text)
  exact hescaped.trans (congrArg Entity.escape hsource)

end References

end MarkupFeed
