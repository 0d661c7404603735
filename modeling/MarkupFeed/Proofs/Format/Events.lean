import MarkupFeed.Proofs.Format.Steady
import MarkupFeed.Proofs.Tokenizer.Coverage

/-!
# What the events of all formats have in common

What the events of all formats have in common, whatever the buffers an input comes in.

* `merged_events_eq_tokens`: the buffers do not show after merging.
* `reports_cover`: no octet is lost, repeated or moved, and every report is a part of the buffer it
  is made through.
-/

namespace MarkupFeed.Format

/-- The merged events of an input are the same whatever buffers it comes in, empty ones and ones of
a single octet included: those of the input in one buffer. -/
theorem merged_events_eq_tokens (style : Cpp.Style) (format : Format) (buffers : List Bytes) :
    Event.merged ((format.machine style).events buffers)
      = (format.machine style).tokens buffers.flatten := by
  have hm := isSteady_machine style format
  rw [Machine.tokens, Machine.merged_events hm, Machine.merged_events hm]
  simp

/-- The octets of all events, merged or not, are those of the input in their order. Every report is
made through a buffer of the input or one of the tokenizer's own, and is the part of it from its
first position up to its last. -/
theorem reports_cover (style : Cpp.Style) (format : Format) (buffers : List Bytes) :
    Event.source ((format.machine style).events buffers) = buffers.flatten
      ∧ (∀ report ∈ (format.machine style).reports buffers,
        report.first ≤ report.last ∧ report.last ≤ report.length
          ∧ ∃ buffer ∈ buffers ++ Tokenizer.ownBuffers, report.length = buffer.length
            ∧ report.event.text
              = (buffer.drop report.first).take (report.last - report.first))
      ∧ Event.source (Event.merged ((format.machine style).events buffers)) = buffers.flatten := by
  have hm := isSteady_machine style format
  have hsource := Machine.source_events hm buffers
  refine ⟨hsource, fun report hmem => ?_, ?_⟩
  · obtain ⟨buffer, hbuffer, hpart⟩ := Machine.exists_isPart_of_mem_reports hm buffers report hmem
    refine ⟨hpart.first_le, ?_, buffer, hbuffer, hpart.length_eq, hpart.text_eq⟩
    rw [hpart.length_eq]
    exact hpart.last_le
  · rw [Event.merged_source, hsource]

end MarkupFeed.Format
