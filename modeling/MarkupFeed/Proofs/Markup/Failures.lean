import MarkupFeed.Proofs.Format.Restarting
import MarkupFeed.Proofs.Markup.Decorator

/-!
# What has been written when a write fails

The first write that fails is the last one of its call, and the reading of the input goes on.

A sink may fail at any text it is offered. `Sink.Delivers` says what has become of some texts then:
those in front of the one that failed were taken, and those behind it were never offered. While the
tokenizer reports, the renderer is a listener that drops what is reported after an error
(`Renderer.listen`, `Renderer.run_eq_foldl`); one event more keeps it delivering the texts of all
events so far (`Renderer.Follows.listen`), whatever machine reports them.

A renderer that escapes a text in the middle of other writes has an escaper of its own at work
there. Its writes are those of the texts `References.pieces` lists (`Highlight.run_pieces`), so that
in a script they may stand for it: `Highlight.run_around_pieces`. So it is in a span and in a link
(`Spans.run_span`, `Anchors.run_anchor`), which is recorded behind all of its writes
(`Anchors.run_filename`). Main statement: `Decorator.answer_delivers`.
-/

namespace MarkupFeed

variable {ε τ : Type}

/-! ### Texts offered to a sink -/

namespace Sink

variable {sink : Sink ε τ} {memory between last : τ} {texts more : List Bytes} {output : Bytes}
  {error : Option ε}

/-- The sink that takes everything and remembers it, text by text. -/
def journal : Sink Empty (List Bytes) where
  write texts text := (.all, texts ++ [text])

/-- The sink takes texts one after the other, each of them as a whole. -/
inductive Takes (sink : Sink ε τ) : τ → List Bytes → τ → Prop
  | nil (memory : τ) : Takes sink memory [] memory
  | cons {memory between last : τ} {text : Bytes} {texts : List Bytes}
      (hwrite : sink.write memory text = (.all, between)) (hrest : Takes sink between texts last) :
      Takes sink memory (text :: texts) last

/-- What has become of texts that were offered to a sink one after the other: what the sink
remembers, what has reached it, and its error. -/
inductive Delivers (sink : Sink ε τ) (memory : τ) (texts : List Bytes) :
    τ → Bytes → Option ε → Prop
  /-- The sink has taken all of them. -/
  | all {last : τ} (htakes : sink.Takes memory texts last) :
      Delivers sink memory texts last texts.flatten none
  /-- The sink has failed with one of them, of which it took the first octets, and was not asked
  again. -/
  | part {taken left : List Bytes} {text : Bytes} {between last : τ} {count : Nat} {error : ε}
      (htexts : texts = taken ++ text :: left) (htakes : sink.Takes memory taken between)
      (hwrite : sink.write between text = (.part count error, last)) :
      Delivers sink memory texts last (taken.flatten ++ text.take count) (some error)

theorem Takes.append (h : sink.Takes memory texts between) (hmore : sink.Takes between more last) :
    sink.Takes memory (texts ++ more) last := by
  induction h with
  | nil => exact hmore
  | cons hwrite _ ih => exact .cons hwrite (ih hmore)

theorem Takes.eq_of_journal {before after : List Bytes} (h : journal.Takes before texts after) :
    after = before ++ texts := by
  induction h with
  | nil => exact (List.append_nil _).symm
  | cons hwrite _ ih =>
    obtain ⟨-, rfl⟩ := Prod.mk.inj hwrite
    rw [ih, List.append_assoc]
    rfl

/-- What reaches a sink is the beginning of what it is offered. -/
theorem Delivers.output_isPrefix (h : sink.Delivers memory texts last output error) :
    output <+: texts.flatten := by
  cases h with
  | all => exact List.prefix_refl _
  | part htexts =>
    rw [htexts, List.flatten_append, List.flatten_cons]
    refine (List.prefix_append_right_inj _).mpr ?_
    exact (List.take_prefix _ _).trans (List.prefix_append _ _)

/-- Texts behind some that were taken. -/
theorem Delivers.append (htakes : sink.Takes memory texts between)
    (h : sink.Delivers between more last output error) :
    sink.Delivers memory (texts ++ more) last (texts.flatten ++ output) error := by
  cases h with
  | all hmore =>
    rw [← List.flatten_append]
    exact .all (htakes.append hmore)
  | @part taken left text _ _ _ _ htexts hmore hwrite =>
    have hsplit : texts ++ more = texts ++ taken ++ text :: left := by
      rw [htexts, List.append_assoc]
    rw [← List.append_assoc, ← List.flatten_append]
    exact .part hsplit (htakes.append hmore) hwrite

/-- Texts that would have come behind an error are none of the sink's business. -/
theorem Delivers.more_of_isSome (h : sink.Delivers memory texts last output error)
    (herror : error.isSome = true) (more : List Bytes) :
    sink.Delivers memory (texts ++ more) last output error := by
  cases h with
  | all => exact absurd herror (by simp)
  | @part taken left text _ _ _ _ htexts htakes hwrite =>
    have hsplit : texts ++ more = taken ++ text :: (left ++ more) := by
      rw [htexts, List.append_assoc]
      rfl
    exact .part hsplit htakes hwrite

theorem Delivers.takes_of_none (h : sink.Delivers memory texts last output none) :
    sink.Takes memory texts last ∧ output = texts.flatten := by
  cases h with
  | all htakes => exact ⟨htakes, rfl⟩

end Sink

/-! ### Scripts -/

namespace Script

variable {σ : Type} (sink : Sink ε τ)

/-- The texts that writes offer to a sink which takes them. -/
def offered (writes : List (Bytes × σ)) : List Bytes :=
  (writes.map Prod.fst).filter fun text => !text.isEmpty

theorem delivers_perform (state : σ) (writes : List (Bytes × σ)) (memory : τ) :
    let outcome := perform sink state writes memory
    sink.Delivers memory (offered writes) outcome.sink outcome.output outcome.error
      ∧ (outcome.error = none → outcome.state = final ⟨state, writes⟩) := by
  induction writes generalizing state memory with
  | nil => exact ⟨.all (.nil memory), fun _ => rfl⟩
  | cons write rest ih =>
    obtain ⟨text, next⟩ := write
    rw [final_cons]
    by_cases hempty : text.isEmpty = true
    · -- a text of no octets is not offered
      have hoffered : offered ((text, next) :: rest) = offered rest := by
        simp [offered, List.isEmpty_iff.mp hempty]
      rw [perform, if_pos hempty, hoffered]
      exact ih next memory
    · have hoffered : offered ((text, next) :: rest) = [text] ++ offered rest := by
        simp [offered, hempty]
      rw [perform, if_neg hempty, hoffered]
      cases hwrite : sink.write memory text with
      | mk reply between =>
        cases reply with
        | all =>
          obtain ⟨hrest, hstate⟩ := ih next between
          have htakes : sink.Takes memory [text] between := .cons hwrite (.nil between)
          have hdelivers := hrest.append htakes
          rw [List.flatten_singleton] at hdelivers
          exact ⟨hdelivers, hstate⟩
        | part count error =>
          have hdelivers : sink.Delivers memory ([] ++ text :: offered rest) between
              ([].flatten ++ text.take count) (some error) := .part rfl (.nil memory) hwrite
          exact ⟨hdelivers, fun hnone => absurd hnone (Option.some_ne_none error)⟩

end Script

/-! ### Renderers -/

namespace Renderer

variable {κ : Type} (r : Renderer κ) (sink : Sink ε τ)

/-- What a listener is left with that renders one more event. After an error it drops the event. -/
def listen (outcome : Outcome ε τ r.State) (event : Event κ) : Outcome ε τ r.State :=
  if outcome.error.isSome then outcome
  else
    let next := (r.render outcome.state event).run sink outcome.sink
    { next with output := outcome.output ++ next.output }

theorem foldl_listen_of_isSome {outcome : Outcome ε τ r.State} (h : outcome.error.isSome = true)
    (events : List (Event κ)) : events.foldl (r.listen sink) outcome = outcome := by
  induction events with
  | nil => rfl
  | cons event events ih => rw [List.foldl_cons, listen, if_pos h, ih]

theorem foldl_listen (state : r.State) (events : List (Event κ)) (memory : τ) (output : Bytes) :
    events.foldl (r.listen sink) ⟨state, memory, output, none⟩
      = { r.run sink state events memory with
          output := output ++ (r.run sink state events memory).output } := by
  induction events generalizing state memory output with
  | nil => exact congrArg (Outcome.mk state memory · none) (List.append_nil output).symm
  | cons event events ih =>
    rw [List.foldl_cons, listen, if_neg (by simp), run]
    cases hnext : (r.render state event).run sink memory with
    | mk state' memory' output' error =>
      cases error with
      | some error => exact r.foldl_listen_of_isSome sink rfl events
      | none =>
        refine (ih state' memory' (output ++ output')).trans ?_
        rw [List.append_assoc]
        rfl

/-- To render events up to the first error is to listen to all of them. -/
theorem run_eq_foldl (state : r.State) (events : List (Event κ)) (memory : τ) :
    r.run sink state events memory = events.foldl (r.listen sink) ⟨state, memory, [], none⟩ :=
  (r.foldl_listen sink state events memory []).symm

/-- The texts that rendering consecutive events comes to. -/
def offered : r.State → List (Event κ) → List Bytes
  | _, [] => []
  | state, event :: events =>
    Script.offered (r.render state event).writes ++ offered (r.render state event).final events

/-- A listener that delivers texts and remembers a state, unless there was an error. -/
structure Follows (memory : τ) (outcome : Outcome ε τ r.State) (texts : List Bytes)
    (state : r.State) : Prop where
  delivers : sink.Delivers memory texts outcome.sink outcome.output outcome.error
  state_eq : outcome.error = none → outcome.state = state

variable {r sink} {memory : τ} {outcome : Outcome ε τ r.State} {texts : List Bytes}
  {state : r.State}

/-- One more event. -/
theorem Follows.listen (h : r.Follows sink memory outcome texts state) (event : Event κ) :
    r.Follows sink memory (r.listen sink outcome event)
      (texts ++ Script.offered (r.render state event).writes) (r.render state event).final := by
  unfold Renderer.listen
  split
  · next herror =>
    exact ⟨h.delivers.more_of_isSome herror _, fun hnone => absurd herror (by simp [hnone])⟩
  · next herror =>
    have hnone : outcome.error = none := Option.not_isSome_iff_eq_none.mp herror
    have hdelivers := h.delivers
    rw [hnone] at hdelivers
    obtain ⟨htakes, houtput⟩ := hdelivers.takes_of_none
    obtain ⟨hscript, hfinal⟩ := Script.delivers_perform sink (r.render state event).start
      (r.render state event).writes outcome.sink
    rw [h.state_eq hnone, houtput]
    exact ⟨hscript.append htakes, hfinal⟩

theorem Follows.foldl_listen (h : r.Follows sink memory outcome texts state)
    (events : List (Event κ)) :
    r.Follows sink memory (events.foldl (r.listen sink) outcome) (texts ++ r.offered state events)
      (r.rendered state events).1 := by
  induction events generalizing outcome texts state with
  | nil =>
    rw [offered, List.append_nil]
    exact h
  | cons event events ih =>
    have hrest := ih (h.listen event)
    rw [List.append_assoc] at hrest
    exact hrest

/-- Rendering delivers the texts of the events, in their order. -/
theorem follows_run (sink : Sink ε τ) (state : r.State) (events : List (Event κ)) (memory : τ) :
    r.Follows sink memory (r.run sink state events memory) (r.offered state events)
      (r.rendered state events).1 := by
  have hstart : r.Follows sink memory ⟨state, memory, [], none⟩ [] state :=
    ⟨.all (.nil memory), fun _ => rfl⟩
  rw [run_eq_foldl]
  exact hstart.foldl_listen events

end Renderer

/-! ### Decorators -/

namespace Decorator

/-- Answers a call: decorates the next part of a text, or finishes. -/
def answer (d : Decorator) (sink : Sink ε τ) (call : Tokenizer.Call) (memory : τ) :
    Outcome ε τ Decorator :=
  match call with
  | .feed part => d.decorate sink part memory
  | .flush => d.finish sink memory

theorem answer_eq_renderReports (d : Decorator) (sink : Sink ε τ) (call : Tokenizer.Call)
    (memory : τ) :
    d.answer sink call memory = d.renderReports sink (d.tokenizer.call call) memory := by
  cases call <;> rfl

/-- Of what a decorator remembers, the sink has a say in what its renderer does. -/
theorem state_answer (d : Decorator) (sink : Sink ε τ) (call : Tokenizer.Call) (memory : τ) :
    ∃ rendering, (d.answer sink call memory).state
      = ⟨d.highlight, (d.tokenizer.call call).1, rendering⟩ := by
  rw [answer_eq_renderReports]
  exact ⟨_, rfl⟩

/-- The texts of a call. -/
def offered (d : Decorator) (call : Tokenizer.Call) : List Bytes :=
  d.highlight.renderer.offered d.rendering (Report.events (d.tokenizer.call call).2)

theorem delivers_answer (d : Decorator) (sink : Sink ε τ) (call : Tokenizer.Call) (memory : τ) :
    sink.Delivers memory (d.offered call) (d.answer sink call memory).sink
      (d.answer sink call memory).output (d.answer sink call memory).error := by
  rw [answer_eq_renderReports]
  exact (Renderer.follows_run sink d.rendering _ memory).delivers

/-- A sink that cannot fail takes all texts of a call. -/
theorem takes_answer (d : Decorator) (sink : Sink Empty τ) (call : Tokenizer.Call) (memory : τ) :
    sink.Takes memory (d.offered call) (d.answer sink call memory).sink
      ∧ (d.answer sink call memory).output = (d.offered call).flatten := by
  have hdelivers := d.delivers_answer sink call memory
  cases herror : (d.answer sink call memory).error with
  | none =>
    rw [herror] at hdelivers
    exact hdelivers.takes_of_none
  | some error => exact error.elim

theorem sink_answer_journal (d : Decorator) (call : Tokenizer.Call) :
    (d.answer Sink.journal call []).sink = d.offered call :=
  (d.takes_answer Sink.journal call []).1.eq_of_journal

end Decorator

/-! ### Escaping in the middle of other writes -/

/-- References are written event by event, whatever their author remembers. -/
theorem References.run_eq (sink : Sink ε τ) (state : renderer.State)
    (events : List (Event Escapes.Kind)) (memory : τ) :
    renderer.run sink state events memory
      = (Script.texts () (events.map shownEvent)).run sink memory := by
  induction events generalizing state memory with
  | nil => rfl
  | cons event events ih =>
    have hevent : renderer.render state event = Script.texts state [shownEvent event] := by
      cases event <;> rfl
    have hfirst : renderer.run sink state (event :: events) memory
        = ((renderer.render state event).run sink memory).andThen fun state memory =>
            renderer.run sink state events memory := rfl
    have hcut :=
      Script.run_texts_append sink state [shownEvent event] (events.map shownEvent) memory
    rw [hfirst, hevent]
    simp only [ih]
    exact hcut.symm

/-- References for the events of an input that is read in two parts. -/
theorem References.run_append {σ : Type} (sink : Sink ε τ) (state : σ)
    (first last : List (Event Escapes.Kind)) (memory : τ) :
    (Script.texts state ((first ++ last).map shownEvent)).run sink memory
      = ((renderer.run sink () first memory).andThen fun _ memory =>
          renderer.run sink () last memory).withState state := by
  rw [List.map_append, Script.run_texts, Script.run_texts_append, ← run_eq sink () first]
  simp only [← run_eq sink () last]
  rfl

namespace Highlight

/-- Escapes a text with an escaper of its own, which is finished at the end of the text. -/
def escapeTo (sink : Sink ε τ) (text : Bytes) (memory : τ) : Outcome ε τ Decorator :=
  (escaper.fresh.decorate sink text memory).andThen fun d memory => d.finish sink memory

/-- To write the pieces of a text is to escape it. -/
theorem run_pieces {σ : Type} (sink : Sink ε τ) (state : σ) (text : Bytes) (memory : τ) :
    (Script.texts state (References.pieces text)).run sink memory
      = (escapeTo sink text memory).withState state := by
  let read := (Tokenizer.fresh Escapes.machine).feed text
  have hevents : Escapes.machine.events [text]
      = Report.events read.2 ++ Report.events read.1.flush.2 := by
    simp [Machine.events, Machine.reports, Tokenizer.finish, Tokenizer.feedAll,
      Report.events_append, read]
  have hrun := References.run_append sink state (Report.events read.2)
    (Report.events read.1.flush.2) memory
  rw [References.pieces, hevents]
  refine hrun.trans ?_
  unfold escapeTo Outcome.andThen
  by_cases herror : (escaper.fresh.decorate sink text memory).error.isSome = true
  · rw [if_pos herror]
    exact congrArg (Outcome.withState · state) (if_pos herror)
  · rw [if_neg herror]
    exact congrArg (Outcome.withState · state) (if_neg herror)

theorem delivers_escapeTo (sink : Sink ε τ) (text : Bytes) (memory : τ) :
    sink.Delivers memory (Script.offered (Script.texts () (References.pieces text)).writes)
      (escapeTo sink text memory).sink (escapeTo sink text memory).output
      (escapeTo sink text memory).error := by
  have hrun : Script.perform sink () (Script.texts () (References.pieces text)).writes memory
      = (escapeTo sink text memory).withState () := run_pieces sink () text memory
  have hdelivers := (Script.delivers_perform sink ()
    (Script.texts () (References.pieces text)).writes memory).1
  rw [hrun] at hdelivers
  exact hdelivers

/-- An escaped text between others is escaped where they leave the sink, and the others behind it
are written where the escaper does. -/
theorem run_around_pieces {σ : Type} (sink : Sink ε τ) (state : σ) (front : List Bytes)
    (text : Bytes) (back : List Bytes) (memory : τ) :
    (Script.texts state (front ++ References.pieces text ++ back)).run sink memory
      = (((Script.texts state front).run sink memory).andThen fun _ memory =>
            (escapeTo sink text memory).withState state).andThen fun _ memory =>
          (Script.texts state back).run sink memory := by
  rw [Script.run_texts_append, Script.run_texts_append]
  simp only [run_pieces]

end Highlight

/-- A token that is not blank is written in a span with an escaper at work in it. -/
theorem Spans.run_span {κ σ : Type} [TokenKind κ] (sink : Sink ε τ) (state : σ) (kind : κ)
    {text : Bytes} (hempty : text.isEmpty = false) (hblank : text.all Octet.isBlank = false)
    (memory : τ) :
    (Script.texts state (span true kind text)).run sink memory
      = (((Script.texts state [Bytes.ascii "<span class=\"", Bytes.ascii (TokenKind.title kind),
              Bytes.ascii "\">"]).run sink memory).andThen fun _ memory =>
            (Highlight.escapeTo sink text memory).withState state).andThen fun _ memory =>
          (Script.texts state [Bytes.ascii "</span>"]).run sink memory := by
  have hspan : span true kind text
      = [Bytes.ascii "<span class=\"", Bytes.ascii (TokenKind.title kind), Bytes.ascii "\">"]
        ++ References.pieces text ++ [Bytes.ascii "</span>"] := by
    simp [span, hempty, hblank]
  rw [hspan, Highlight.run_around_pieces]

/-- A link is written with one escaper at work on its target, and another one on its text. -/
theorem Anchors.run_anchor {σ : Type} (sink : Sink ε τ) (state : σ) (site : Site) (name : String)
    (memory : τ) :
    (Script.texts state (anchor site name)).run sink memory
      = (((((Script.texts state [Bytes.ascii "<a href=\""]).run sink memory).andThen
                fun _ memory =>
              (Highlight.escapeTo sink (Utf8.encode (Link.resolve site name)) memory).withState
                state).andThen fun _ memory =>
            (Script.texts state [Bytes.ascii "\"", Bytes.ascii (Link.classify site name).attribute,
              Bytes.ascii ">"]).run sink memory).andThen fun _ memory =>
          (Highlight.escapeTo sink (Utf8.encode name) memory).withState state).andThen
            fun _ memory => (Script.texts state [Bytes.ascii "</a>"]).run sink memory := by
  rw [anchor, Highlight.run_around_pieces, Script.run_texts_append, Script.run_texts_append]
  simp only [Highlight.run_pieces]

/-- The link of a file name is recorded behind its last write, so that a link that was cut off is
not. -/
theorem Anchors.run_filename (sink : Sink ε τ) (site : Site) (links : List String) (text : Bytes)
    (memory : τ) :
    let name := Utf8.decodeLossy text
    let before : State := ⟨[], links⟩
    let after : State := ⟨[], Link.record name links⟩
    (word site links .filename text).run sink memory
      = ((Script.texts before (anchor site name)).run sink memory).andThen fun _ memory =>
          ⟨after, memory, [], none⟩ := by
  intro name before after
  exact Script.perform_append sink before ((anchor site name).map (·, before)) [([], after)] memory

/-! ### Main result -/

/-- Some texts are fixed by the decorator and the call alone, and every sink is offered them in
their order, up to the first that it fails with: it is not asked again, and the call returns its
error. What has reached it is the beginning of what a sink that takes everything receives, and the
tokenizer is left as it is with such a sink. This is so of every machine and renderer, and of
however many writes the renderer makes of an event. Where a renderer escapes a text, the writes of
an escaper of its own stand in its script one by one (`Spans.run_span`, `Anchors.run_anchor`): the
escaper begins where the texts in front of it leave the sink, the texts behind it begin where it
does, and none of them is offered after an error. -/
theorem Decorator.answer_delivers (d : Decorator) (call : Tokenizer.Call) :
    let texts := (d.answer Sink.journal call []).sink
    let whole := d.answer Sink.unlimited call ()
    let read := (d.tokenizer.call call).1
    whole.output = texts.flatten
    ∧ (∃ rendering, whole.state = ⟨d.highlight, read, rendering⟩)
    ∧ (∀ (ε τ : Type) (sink : Sink ε τ) (memory : τ),
        let outcome := d.answer sink call memory
        sink.Delivers memory texts outcome.sink outcome.output outcome.error
        ∧ outcome.output <+: whole.output
        ∧ ∃ rendering, outcome.state = ⟨d.highlight, read, rendering⟩)
    ∧ ∀ text : Bytes, (References.pieces text).flatten = Entity.escape text
        ∧ ∀ (ε τ : Type) (sink : Sink ε τ),
          (∀ memory : τ,
            let outcome := Highlight.escapeTo sink text memory
            sink.Delivers memory (Script.offered (Script.texts () (References.pieces text)).writes)
              outcome.sink outcome.output outcome.error)
          ∧ ∀ (σ : Type) (state : σ) (front back : List Bytes) (memory : τ),
            (Script.texts state (front ++ References.pieces text ++ back)).run sink memory
              = (((Script.texts state front).run sink memory).andThen fun _ memory =>
                    (Highlight.escapeTo sink text memory).withState state).andThen
                  fun _ memory => (Script.texts state back).run sink memory := by
  intro texts whole read
  have htexts : texts = d.offered call := d.sink_answer_journal call
  have hwhole : whole.output = texts.flatten := by
    rw [htexts]
    exact (d.takes_answer Sink.unlimited call ()).2
  refine ⟨hwhole, d.state_answer Sink.unlimited call (), ?_, ?_⟩
  · intro ε τ sink memory outcome
    have hdelivers : sink.Delivers memory texts outcome.sink outcome.output outcome.error := by
      rw [htexts]
      exact d.delivers_answer sink call memory
    refine ⟨hdelivers, ?_, d.state_answer sink call memory⟩
    rw [hwhole]
    exact hdelivers.output_isPrefix
  · intro text
    refine ⟨References.flatten_pieces text, fun ε τ sink => ⟨?_, ?_⟩⟩
    · exact Highlight.delivers_escapeTo sink text
    · intro σ state front back memory
      exact Highlight.run_around_pieces sink state front text back memory

end MarkupFeed
