import MarkupFeed.Markup.Decorator
import MarkupFeed.Proofs.Markup.Rendering

/-!
# Decorators on input in parts

What a decorator writes, and the links it records, do not depend on how its input is cut.

`Decorator.passAll_eq` reduces a decorator to its tokenizer and its renderer. With a renderer that
puts pieces together, no cut shows because none does after merging
(`Highlight.isSeamless_of_merges`); with references none shows because every piece is escaped by
itself (`Highlight.passAll_escaper`). The main statement is `Highlight.passAll_ofFormat`.
-/

namespace MarkupFeed

namespace Decorator

variable {h : Highlight} (t : Tokenizer h.machine) (state : h.renderer.State)

theorem renderReports_unlimited (read : Tokenizer h.machine × List (Report h.machine.Kind)) :
    renderReports ⟨h, t, state⟩ Sink.unlimited read ()
      = ⟨⟨h, read.1, (h.renderer.rendered state (Report.events read.2)).1⟩, (),
          (h.renderer.rendered state (Report.events read.2)).2, none⟩ := by
  unfold renderReports
  rw [Renderer.run_unlimited]

theorem pass_eq (part : Bytes) :
    pass ⟨h, t, state⟩ part
      = (⟨h, (t.feed part).1, (h.renderer.rendered state (Report.events (t.feed part).2)).1⟩,
          (h.renderer.rendered state (Report.events (t.feed part).2)).2) := by
  rw [pass, decorate, renderReports_unlimited]

theorem drain_eq :
    drain ⟨h, t, state⟩
      = (⟨h, t.flush.1, (h.renderer.rendered state (Report.events t.flush.2)).1⟩,
          (h.renderer.rendered state (Report.events t.flush.2)).2) := by
  rw [drain, finish, renderReports_unlimited]

theorem passAll_cons (d : Decorator) (part : Bytes) (parts : List Bytes) :
    d.passAll (part :: parts)
      = (((d.pass part).1.passAll parts).1, (d.pass part).2 ++ ((d.pass part).1.passAll parts).2) :=
  rfl

/-- The decorator after all parts of a text, and what it writes for them: its renderer on all that
its tokenizer reports. -/
theorem passAll_eq (parts : List Bytes) :
    passAll ⟨h, t, state⟩ parts
      = (⟨h, (t.finish parts).1,
            (h.renderer.rendered state (Report.events (t.finish parts).2)).1⟩,
          (h.renderer.rendered state (Report.events (t.finish parts).2)).2) := by
  induction parts generalizing t state with
  | nil => exact drain_eq t state
  | cons part parts ih =>
    have hreports : Report.events (t.finish (part :: parts)).2
        = Report.events (t.feed part).2
          ++ Report.events ((t.feed part).1.finish parts).2 := by
      rw [Tokenizer.finish_cons, Report.events_append]
    rw [passAll_cons, pass_eq, ih, hreports, Renderer.rendered_append]
    rfl

end Decorator

namespace Highlight

/-! ### Cuts that do not show -/

theorem passAll_fresh (h : Highlight) (parts : List Bytes) :
    (h.fresh.passAll parts).2 = (h.renderer.rendered h.renderer.start (h.machine.events parts)).2
      ∧ (h.fresh.passAll parts).1.links
        = h.renderer.links
          (h.renderer.rendered h.renderer.start (h.machine.events parts)).1 := by
  rw [fresh, Decorator.passAll_eq]
  exact ⟨rfl, rfl⟩

/-- However a text is cut, a fresh decorator writes the same for it and records the same links. -/
def IsSeamless (h : Highlight) : Prop :=
  ∀ parts : List Bytes, (h.fresh.passAll parts).2 = h.apply parts.flatten
    ∧ (h.fresh.passAll parts).1.links = (h.fresh.passAll [parts.flatten]).1.links

/-- What is rendered is what a machine makes of all its input at once. -/
theorem isSeamless_of_merges {h : Highlight} (hm : h.machine.IsSteady) (hr : h.renderer.Merges) :
    h.IsSeamless := by
  intro parts
  have hrendered : h.renderer.rendered h.renderer.start (h.machine.events parts)
      = h.renderer.rendered h.renderer.start (h.machine.events [parts.flatten]) := by
    rw [← hr.rendered_merged, ← hr.rendered_merged _ (h.machine.events [parts.flatten]),
      Machine.merged_events hm, Machine.merged_events hm]
    simp
  obtain ⟨houtput, hlinks⟩ := passAll_fresh h parts
  obtain ⟨houtput', hlinks'⟩ := passAll_fresh h [parts.flatten]
  rw [apply, houtput, houtput', hlinks, hlinks', hrendered]
  exact ⟨rfl, rfl⟩

/-- Escaping replaces the reserved characters and leaves the rest of a text as it is. -/
theorem passAll_escaper (parts : List Bytes) :
    (escaper.fresh.passAll parts).2 = Entity.escape parts.flatten := by
  have hm : Escapes.machine.IsSteady := Format.isSteady_machine Format.defaultStyle .escapes
  rw [(passAll_fresh escaper parts).1, ← Machine.source_events hm]
  exact congrArg Prod.snd (References.rendered_events () parts)

theorem isSeamless_escaper : escaper.IsSeamless := by
  intro parts
  constructor
  · rw [apply, passAll_escaper, passAll_escaper, List.flatten_singleton]
  · -- references record no links
    rw [(passAll_fresh escaper parts).2, (passAll_fresh escaper [parts.flatten]).2]
    rfl

/-- Verbatim highlights copy, however their input is cut. -/
theorem isSeamless_verbatim (style : Cpp.Style) (format : Format) :
    IsSeamless ⟨format.machine style, .verbatim _⟩ :=
  isSeamless_of_merges (Format.isSteady_machine style format) (Renderer.merges_verbatim _)

/-- Spans wait until the kind of a token is final. -/
theorem isSeamless_spans {m : Machine} (hm : m.IsSteady) (escaped : Bool) :
    IsSeamless ⟨m, Spans.renderer m.Kind escaped⟩ :=
  isSeamless_of_merges hm (Spans.merges_renderer escaped)

theorem isSeamless_ofFormat (format : Format) (options : Options) (site : Site) :
    (ofFormat format options site).IsSeamless := by
  have hm : ∀ format : Format, (format.machine options.style).IsSteady :=
    Format.isSteady_machine options.style
  cases format with
  | cpp => exact isSeamless_spans (hm .cpp) options.escape
  | xml =>
    show IsSeamless (if options.checkLinks then _ else _)
    split
    · exact @isSeamless_of_merges ⟨Xml.machine, _⟩ (hm .xml) (Targets.merges_renderer site)
    · exact isSeamless_spans (hm .xml) options.escape
  | mail => exact isSeamless_spans (hm .mail) options.escape
  | prose =>
    exact @isSeamless_of_merges ⟨Prose.machine, _⟩ (hm .prose) (Anchors.merges_renderer site)
  | markdown => exact isSeamless_spans (hm .markdown) options.escape
  | shell => exact isSeamless_spans (hm .shell) options.escape
  | escapes => exact isSeamless_escaper
  | diagnostics => exact isSeamless_spans (hm .diagnostics) options.escape

/-- For every format, choice of markup and site, and however a text is cut: the decorator of the
format writes for the parts what it writes for the whole text, and it records the same links. -/
theorem passAll_ofFormat (format : Format) (options : Options) (site : Site)
    (parts : List Bytes) :
    let decorator := (ofFormat format options site).fresh
    (decorator.passAll parts).2 = (decorator.passAll [parts.flatten]).2
      ∧ (decorator.passAll parts).1.links = (decorator.passAll [parts.flatten]).1.links :=
  isSeamless_ofFormat format options site parts

end Highlight

end MarkupFeed
