import MarkupFeed.Proofs.Markup.Brackets
import MarkupFeed.Proofs.Markup.Decorator
import MarkupFeed.Proofs.Markup.Entity
import MarkupFeed.Proofs.Tokenizer.Continuations
import MarkupFeed.Proofs.Tokenizer.Lines

/-!
# What stands in a text whose tokens are marked by spans

The renderer remembers the run that merging has open, and writes what merging gives out
(`Spans.rendered_eq`). At the end of an input no run is open, so the output of a decorator is the
written form of the items of a reading's events (`Highlight.passAll_spans`), of which two things are
read off:

* the octets apart from the brackets are those of the input, escaped or not
  (`Spans.bare_eventItems`), which makes `Highlight.unescape_bare_items` of the round trip of
  references;
* what stands inside a span is one token (`Spans.contents_eventItems`), in one line or in lines that
  are joined: `Highlight.exists_items_passAll`.
-/

namespace MarkupFeed

namespace Spans

variable {κ : Type} [TokenKind κ]

/-- How a text is written, with or without escaping. -/
def shown (escaped : Bool) (text : Bytes) : Bytes := if escaped then Entity.escape text else text

theorem shown_nil (escaped : Bool) : shown escaped [] = [] := by
  cases escaped <;> rfl

theorem shown_append (escaped : Bool) (front back : Bytes) :
    shown escaped (front ++ back) = shown escaped front ++ shown escaped back := by
  cases escaped with
  | true => exact Entity.escape_append front back
  | false => rfl

/-- The items of a whole token. -/
def tokenItems (escaped : Bool) (kind : κ) (text : Bytes) : List Item :=
  let octets := (shown escaped text).map Item.octet
  if text.all Octet.isBlank then octets
  else .opening (Bytes.ascii (TokenKind.title kind)) :: (octets ++ [.closing])

/-- The items of a merged event. -/
def eventItems (escaped : Bool) : Event κ → List Item
  | .token kind text _ => tokenItems escaped kind text
  | .newline text => text.map .octet

/-! ### The renderer -/

theorem written_octets (text : Bytes) : (text.map Item.octet).flatMap Item.written = text := by
  induction text with
  | nil => rfl
  | cons b text ih => exact congrArg (b :: ·) ih

theorem flatten_pieces (escaped : Bool) (text : Bytes) :
    (if escaped then References.pieces text else [text]).flatten = shown escaped text := by
  cases escaped with
  | false => exact List.flatten_singleton
  | true => exact References.flatten_pieces text

theorem flatten_span (escaped : Bool) (kind : κ) (text : Bytes) :
    (span escaped kind text).flatten = (tokenItems escaped kind text).flatMap Item.written := by
  unfold span tokenItems
  dsimp only
  split
  · next hempty =>
    rw [List.isEmpty_iff.mp hempty, shown_nil]
    rfl
  split
  · rw [flatten_pieces, written_octets]
  · rw [List.flatten_append, List.flatten_append, flatten_pieces, List.flatMap_cons,
      List.flatMap_append, written_octets, List.append_assoc]
    have hopening :
        [Bytes.ascii "<span class=\"", Bytes.ascii (TokenKind.title kind),
            Bytes.ascii "\">"].flatten
          = (Item.opening (Bytes.ascii (TokenKind.title kind))).written := by
      simp [Item.written, openingHead]
    rw [hopening]
    rfl

theorem flatten_interrupted (escaped : Bool) (run : Pending κ) :
    (interrupted escaped run).flatten
      = ((Event.interrupted run).flatMap (eventItems escaped)).flatMap Item.written := by
  cases run with
  | none => rfl
  | some run =>
    show (span escaped run.1 run.2).flatten = ((tokenItems escaped run.1 run.2) ++ []).flatMap _
    rw [List.append_nil, flatten_span]

/-- The renderer does to an event what merging does to it. -/
theorem render_eq (escaped : Bool) (run : Pending κ) (event : Event κ) :
    let script := (renderer κ escaped).render run event
    script.final = (Event.mergeOne run event).2
      ∧ script.output
        = ((Event.mergeOne run event).1.flatMap (eventItems escaped)).flatMap Item.written := by
  cases event with
  | token kind text fragment =>
    cases fragment with
    | true => exact ⟨rfl, rfl⟩
    | false =>
      refine ⟨Script.final_texts _ _, ?_⟩
      show Script.output (.texts none (span escaped kind (Event.openText run ++ text))) = _
      rw [Script.output_texts, flatten_span]
      simp [Event.mergeOne, eventItems]
  | newline text =>
    refine ⟨Script.final_texts _ _, ?_⟩
    show Script.output (.texts none (interrupted escaped run ++ [text])) = _
    rw [Script.output_texts, List.flatten_append, flatten_interrupted]
    simp [Event.mergeOne, eventItems, written_octets]

/-- What the renderer has not written yet is the run that merging has open. -/
theorem rendered_eq (escaped : Bool) (run : Pending κ) (events : List (Event κ)) :
    (renderer κ escaped).rendered run events
      = ((Event.settle run events).2,
          ((Event.settle run events).1.flatMap (eventItems escaped)).flatMap Item.written) := by
  induction events generalizing run with
  | nil => rfl
  | cons event events ih =>
    obtain ⟨hfinal, houtput⟩ := render_eq escaped run event
    simp only [Renderer.rendered, Event.settle, hfinal, houtput, ih, List.flatMap_append]
    rfl

/-! ### The octets apart from the brackets -/

theorem bare_tokenItems (escaped : Bool) (kind : κ) (text : Bytes) :
    bare (tokenItems escaped kind text) = shown escaped text := by
  unfold tokenItems
  split
  · exact bare_octets _
  · show bare (_ ++ [.closing]) = _
    rw [bare_append, bare_octets]
    exact List.append_nil _

/-- A line end is not changed by escaping. -/
theorem shown_lineEnd (escaped : Bool) {text : Bytes} (h : text ∈ Bytes.lineEnds) :
    shown escaped text = text := by
  simp only [Bytes.lineEnds, List.mem_cons, List.not_mem_nil, or_false] at h
  rcases h with rfl | rfl | rfl <;> cases escaped <;> rfl

theorem bare_eventItems (escaped : Bool) {p : Bytes → Prop} {events : List (Event κ)}
    (h : ∀ event ∈ events, event.IsMadeOf p) :
    bare (events.flatMap (eventItems escaped)) = shown escaped (Event.source events) := by
  induction events with
  | nil => exact (shown_nil escaped).symm
  | cons event events ih =>
    rw [List.forall_mem_cons] at h
    have hevent : bare (eventItems escaped event) = shown escaped event.text := by
      cases event with
      | token kind text fragment => exact bare_tokenItems escaped kind text
      | newline text => exact (bare_octets text).trans (shown_lineEnd escaped h.1).symm
    rw [List.flatMap_cons, bare_append, hevent, ih h.2, ← shown_append]
    rfl

/-! ### The octets between the brackets -/

theorem contents_tokenItems (escaped : Bool) (kind : κ) (text : Bytes) (rest : List Item) :
    contents (tokenItems escaped kind text ++ rest)
      = (if text.all Octet.isBlank then [] else [shown escaped text]) ++ contents rest := by
  unfold tokenItems
  split
  · exact contents_octets _ rest
  · rw [List.cons_append, List.append_assoc]
    exact contents_span _ _ rest

/-- Inside a span is what is written of one token. -/
theorem contents_eventItems (escaped : Bool) {p : Bytes → Prop} {events : List (Event κ)}
    (h : ∀ event ∈ events, event.IsMadeOf p) :
    ∀ inside ∈ contents (events.flatMap (eventItems escaped)),
      ∃ text, p text ∧ inside = shown escaped text := by
  induction events with
  | nil => exact List.forall_mem_nil _
  | cons event events ih =>
    rw [List.forall_mem_cons] at h
    obtain ⟨hevent, hevents⟩ := h
    rw [List.flatMap_cons]
    cases event with
    | token kind text fragment =>
      rw [eventItems, contents_tokenItems]
      refine List.forall_mem_append.mpr ⟨?_, ih hevents⟩
      split
      · exact List.forall_mem_nil _
      · exact List.forall_mem_singleton.mpr ⟨text, hevent, rfl⟩
    | newline text =>
      rw [eventItems, contents_octets]
      exact ih hevents

/-- Escaping leaves line ends where they are, and adds none. -/
theorem isJoined_shown (escaped : Bool) {text : Bytes} (h : text.IsJoined) :
    (shown escaped text).IsJoined := by
  cases escaped with
  | false => exact h
  | true =>
    intro before b after heq hb
    obtain ⟨front, back, rfl, rfl⟩ := Entity.exists_of_escape_eq hb heq
    have hsuffix : ∀ {part}, part <:+ front → Entity.escape part <:+ Entity.escape front := by
      rintro part ⟨more, rfl⟩
      rw [Entity.escape_append]
      exact List.suffix_append _ _
    -- a backslash and a CR stand for themselves
    exact (h front b back rfl hb).imp hsuffix (And.imp_right hsuffix)

theorem isLine_shown (escaped : Bool) {text : Bytes} (h : text.IsLine) :
    (shown escaped text).IsLine := by
  cases escaped with
  | false => exact h
  | true =>
    have hnone : ∀ b, b = Octet.lineFeed ∨ b = Octet.carriageReturn → b ∉ Entity.escape text := by
      intro b hb hmem
      obtain ⟨before, after, heq⟩ := List.append_of_mem hmem
      obtain ⟨front, back, rfl, -⟩ := Entity.exists_of_escape_eq hb heq
      have hline := h b (List.mem_append_right _ List.mem_cons_self)
      exact hb.elim hline.1 hline.2
    exact fun b hmem => ⟨fun hlf => hnone b (.inl hlf) hmem, fun hcr => hnone b (.inr hcr) hmem⟩

/-! ### Titles -/

theorem title_of_mem_eventItems {escaped : Bool} {title : Bytes} {event : Event κ}
    (h : .opening title ∈ eventItems escaped event) :
    ∃ kind : κ, title = Bytes.ascii (TokenKind.title kind) := by
  have hoctets : ∀ text : Bytes, .opening title ∉ text.map Item.octet := by
    intro text hmem
    obtain ⟨b, -, hb⟩ := List.mem_map.mp hmem
    exact absurd hb (by simp)
  cases event with
  | newline text => exact absurd h (hoctets text)
  | token kind text fragment =>
    rw [eventItems, tokenItems] at h
    split at h
    · exact absurd h (hoctets _)
    · rcases List.mem_cons.mp h with htitle | h
      · exact ⟨kind, Item.opening.inj htitle⟩
      rcases List.mem_append.mp h with h | h
      · exact absurd h (hoctets _)
      · exact absurd (List.mem_singleton.mp h) (by simp)

end Spans

/-! ### Decorators -/

/-- At the end of an input merging has no run open. -/
theorem Machine.settle_events {m : Machine} (hm : m.IsSteady) (buffers : List Bytes) :
    Event.settle none (m.events buffers) = (({} : Reading m).events buffers.flatten, none) := by
  have hmerged : Event.mergedAfter none (m.events buffers)
      = ({} : Reading m).events buffers.flatten := merged_events hm buffers
  have hwhole : Event.EndsWhole (Event.mergedAfter none (m.events buffers)) :=
    hmerged ▸ Reading.endsWhole_events _ _
  rw [hwhole.settle_eq, hmerged]

namespace Highlight

/-- The items of an input whose tokens are marked by spans. -/
def spanItems (m : Machine) (escaped : Bool) (input : Bytes) : List Spans.Item :=
  (({} : Reading m).events input).flatMap (Spans.eventItems escaped)

theorem passAll_spans {m : Machine} (hm : m.IsSteady) (escaped : Bool) (parts : List Bytes) :
    ((fresh ⟨m, Spans.renderer m.Kind escaped⟩).passAll parts).2
      = (spanItems m escaped parts.flatten).flatMap Spans.Item.written := by
  have hrendered := Spans.rendered_eq escaped none (m.events parts)
  rw [Machine.settle_events hm] at hrendered
  exact (passAll_fresh ⟨m, Spans.renderer m.Kind escaped⟩ parts).1.trans
    (congrArg Prod.snd hrendered)

theorem bare_spanItems {m : Machine} (hm : m.IsSteady) (escaped : Bool) (input : Bytes) :
    Spans.bare (spanItems m escaped input) = Spans.shown escaped input := by
  rw [spanItems, Spans.bare_eventItems escaped (Reading.isJoined_events input),
    Reading.source_events hm (Reading.isSound_of_run_eq_nil rfl rfl)]
  rfl

/-- Whether the tokens of a format are marked by spans. -/
def Options.marksSpans (options : Options) : Format → Bool
  | .cpp | .mail | .markdown | .shell | .diagnostics => true
  | .xml => !options.checkLinks
  | .prose | .escapes => false

variable {format : Format} {options : Options}

theorem ofFormat_of_marksSpans (h : options.marksSpans format = true) (site : Site) :
    ofFormat format options site
      = ⟨format.machine options.style, Spans.renderer _ options.escape⟩ := by
  cases format with
  | xml =>
    have hcheck : options.checkLinks = false := by simpa [Options.marksSpans] using h
    rw [ofFormat, hcheck]
    rfl
  | prose | escapes => exact absurd h Bool.false_ne_true
  | _ => rfl

/-- No title of a kind has a quote. -/
theorem quote_not_mem_title (format : Format) (style : Cpp.Style)
    (kind : (format.machine style).Kind) : '"'.toUInt8 ∉ Bytes.ascii (TokenKind.title kind) := by
  have hdefault : ∀ (format : Format) (kind : (format.machine Format.defaultStyle).Kind),
      '"'.toUInt8 ∉ Bytes.ascii (TokenKind.title kind) := by
    intro format kind
    cases format <;> cases kind <;> decide +kernel
  -- the style shows neither in the kinds nor in their titles
  match format, kind with
  | .cpp, kind => exact hdefault .cpp kind
  | .xml, kind => exact hdefault .xml kind
  | .mail, kind => exact hdefault .mail kind
  | .prose, kind => exact hdefault .prose kind
  | .markdown, kind => exact hdefault .markdown kind
  | .shell, kind => exact hdefault .shell kind
  | .escapes, kind => exact hdefault .escapes kind
  | .diagnostics, kind => exact hdefault .diagnostics kind

theorem less_not_mem_shown {escaped : Bool} {input : Bytes}
    (h : escaped = true ∨ '<'.toUInt8 ∉ input) : '<'.toUInt8 ∉ Spans.shown escaped input := by
  cases escaped with
  | true => exact Entity.less_not_mem_escape input
  | false => exact h.resolve_left Bool.false_ne_true

theorem isReadable_spanItems {style : Cpp.Style} {escaped : Bool} {input : Bytes}
    (h : escaped = true ∨ '<'.toUInt8 ∉ input) :
    ∀ item ∈ spanItems (format.machine style) escaped input, item.IsReadable := by
  refine Spans.isReadable_of_bare ?_ ?_
  · intro title htitle
    obtain ⟨event, -, hevent⟩ := List.mem_flatMap.mp htitle
    obtain ⟨kind, rfl⟩ := Spans.title_of_mem_eventItems hevent
    exact quote_not_mem_title format style kind
  · rw [bare_spanItems (Format.isSteady_machine style format)]
    exact less_not_mem_shown h

theorem passAll_ofFormat_spans (h : options.marksSpans format = true) (site : Site)
    (parts : List Bytes) :
    ((ofFormat format options site).fresh.passAll parts).2
      = (spanItems (format.machine options.style) options.escape parts.flatten).flatMap
        Spans.Item.written := by
  rw [ofFormat_of_marksSpans h, passAll_spans (Format.isSteady_machine options.style format)]

/-- Only in C and C++ and in diagnostics a backslash joins lines. -/
theorem continuesLines_machine (style : Cpp.Style) (h : format ∉ [.cpp, .diagnostics]) :
    (format.machine style).continuesLines = false :=
  (Format.continuesLines_machine style format).trans (decide_eq_false h)

/-! ### Main results -/

/-- Spans and references only add to a text: without the brackets, and with every reference read as
its character, what a decorator writes is its input again. -/
theorem unescape_bare_items (h : options.marksSpans format = true)
    (hescape : options.escape = true) (site : Site) (parts : List Bytes) :
    Entity.unescape (Spans.bare (Spans.items
      ((ofFormat format options site).fresh.passAll parts).2)) = parts.flatten := by
  have hshown : Spans.shown options.escape parts.flatten = Entity.escape parts.flatten := by
    rw [Spans.shown, if_pos hescape]
  rw [passAll_ofFormat_spans h, Spans.items_written (isReadable_spanItems (.inl hescape)),
    bare_spanItems (Format.isSteady_machine options.style format), hshown, Entity.unescape_escape]

/-- With a cut inside a tag, reserved characters, a reference and a lone CR. -/
theorem unescape_bare_items_tag :
    Options.marksSpans {} .xml = true ∧ ({} : Options).escape = true
      ∧ Entity.unescape (Spans.bare (Spans.items ((ofFormat .xml {} (.ofPaths "" [])).fresh.passAll
        [Bytes.ascii "<a b=", Bytes.ascii "\"1\">&lt;\r"]).2))
          = Bytes.ascii "<a b=\"1\">&lt;\r" := by
  refine ⟨rfl, rfl, ?_⟩
  have hparts : [Bytes.ascii "<a b=", Bytes.ascii "\"1\">&lt;\r"].flatten
      = Bytes.ascii "<a b=\"1\">&lt;\r" := by decide
  exact (@unescape_bare_items .xml {} rfl rfl _ _).trans hparts

/-- Spans keep to lines, as far as lines are not joined: the output is its input with brackets in
it, and a line end between an opening bracket and the next closing one stands behind a backslash, in
a format where a backslash joins lines. The brackets are those that are read in the output, unless
the input could have some itself. -/
theorem exists_items_passAll (h : options.marksSpans format = true) (site : Site)
    (parts : List Bytes) :
    let output := ((ofFormat format options site).fresh.passAll parts).2
    ∃ items : List Spans.Item,
      output = items.flatMap Spans.Item.written
        ∧ Spans.bare items = Spans.shown options.escape parts.flatten
        ∧ (options.escape = true ∨ '<'.toUInt8 ∉ parts.flatten → Spans.items output = items)
        ∧ ∀ inside ∈ Spans.contents items,
          inside.IsJoined ∧ (format ∉ [.cpp, .diagnostics] → inside.IsLine) := by
  have hm := Format.isSteady_machine options.style format
  refine ⟨spanItems (format.machine options.style) options.escape parts.flatten,
    passAll_ofFormat_spans h site parts, bare_spanItems hm _ _, ?_, ?_⟩
  · intro hless
    rw [passAll_ofFormat_spans h]
    exact Spans.items_written (isReadable_spanItems hless)
  · intro inside hinside
    constructor
    · obtain ⟨text, hjoined, rfl⟩ :=
        Spans.contents_eventItems options.escape (Reading.isJoined_events _) inside hinside
      exact Spans.isJoined_shown options.escape hjoined
    · intro hformat
      have hevents := Reading.isLine_events (r := {})
        (continuesLines_machine options.style hformat) rfl Bytes.isLine_nil parts.flatten
      obtain ⟨text, hline, rfl⟩ :=
        Spans.contents_eventItems options.escape hevents inside hinside
      exact Spans.isLine_shown options.escape hline

/-- A quoted word of two lines has a span in each of them. -/
theorem isLine_contents_quoted :
    Options.marksSpans {} .shell = true
      ∧ ∀ inside ∈ Spans.contents (Spans.items
          ((ofFormat .shell {} (.ofPaths "" [])).fresh.passAll
            [Bytes.ascii "'a", Bytes.ascii "\nb'"]).2),
        inside.IsLine := by
  refine ⟨rfl, ?_⟩
  obtain ⟨items, -, -, hitems, hlines⟩ :=
    @exists_items_passAll .shell {} rfl (.ofPaths "" []) [Bytes.ascii "'a", Bytes.ascii "\nb'"]
  rw [hitems (.inl rfl)]
  exact fun inside hinside => (hlines inside hinside).2 (by decide)

/-- A comment of two lines that a backslash joins has one span around both of them. -/
theorem not_isLine_contents_comment :
    ¬∀ inside ∈ Spans.contents (Spans.items
        ((ofFormat .cpp {} (.ofPaths "" [])).fresh.passAll [Bytes.ascii "// a\\\nb\n"]).2),
      inside.IsLine := by
  decide +kernel

end Highlight

end MarkupFeed
