import MarkupFeed.Proofs.Format.Steady
import MarkupFeed.Proofs.Tokenizer.Chunking
import MarkupFeed.Proofs.Tokenizer.Places

/-!
# The lines of a text in a format that does not join them

`Bytes.endings` are the line ends of an input. A machine that joins no lines reports these, in their
order, and all other octets as pieces of tokens (`Machine.newlines_finish`). So do six of the eight
formats, whatever the state they start in: `Format.newlines_eq_endings`.
-/

namespace MarkupFeed

/-! ### The line ends of an input -/

namespace Bytes

/-- The line ends of an input: every CR LF, every other CR, and every other LF. -/
def endings : Bytes → List Bytes
  | [] => []
  | b :: rest =>
    if b = Octet.lineFeed then [b] :: endings rest
    else if b = Octet.carriageReturn then
      if rest.head? = some Octet.lineFeed then
        [b, Octet.lineFeed] :: match rest with
          | [] => []
          | _ :: tail => endings tail
      else [b] :: endings rest
    else endings rest

theorem endings_append {text : Bytes} (htext : text.IsLine) (rest : Bytes) :
    endings (text ++ rest) = endings rest := by
  induction text with
  | nil => rfl
  | cons b text ih =>
    rw [IsLine, List.forall_mem_cons] at htext
    obtain ⟨hb, htext⟩ := htext
    rw [List.cons_append, endings.eq_def]
    simp only [if_neg hb.1, if_neg hb.2, ih htext]

/-- A line has no line end. -/
theorem endings_eq_nil {text : Bytes} (htext : text.IsLine) : endings text = [] := by
  have happend := endings_append htext []
  rwa [List.append_nil] at happend

/-- A line end is the first one of what begins with it. -/
theorem endings_lineEnd {ending rest : Bytes} (hend : Reading.EndsLine ending rest) :
    endings (ending ++ rest) = ending :: endings rest := by
  obtain ⟨hending, hrest⟩ := hend
  simp only [lineEnds, List.mem_cons, List.not_mem_nil, or_false] at hending
  rcases hending with rfl | rfl | rfl
  · show endings (Octet.lineFeed :: rest) = _
    rw [endings.eq_def]
    simp
  · show endings (Octet.carriageReturn :: rest) = _
    rw [endings.eq_def]
    simp [hrest rfl, show Octet.carriageReturn ≠ Octet.lineFeed by decide]
  · show endings (Octet.carriageReturn :: Octet.lineFeed :: rest) = _
    rw [endings.eq_def]
    simp [show Octet.carriageReturn ≠ Octet.lineFeed by decide]

end Bytes

variable {m : Machine}

/-! ### Machines that join no lines -/

namespace Reading

/-- There is no line end within a line. -/
theorem newlines_line (r : Reading m) (text : Bytes) : Event.newlines (r.line text).1 = [] := by
  induction text generalizing r with
  | nil => exact Event.newlines_eq_nil (isNewline_beforeLineEnd r)
  | cons b text ih =>
    rw [line, Event.newlines_append, ih, Event.newlines_eq_nil (isNewline_offer r b)]
    rfl

/-- Nor is there one in a last line. -/
theorem newlines_lastLine {r : Reading m} (hr : r.continuation = .none) {text : Bytes}
    (htext : text.IsLine) : Event.newlines (r.events text) = [] := by
  induction text generalizing r with
  | nil =>
    show Event.newlines r.ending = []
    unfold ending
    split <;> rfl
  | cons b text ih =>
    rw [Bytes.IsLine, List.forall_mem_cons] at htext
    obtain ⟨hb, htext⟩ := htext
    rw [events_cons hr fun h => hb.2 h.1,
      advance_of_isLine r hb fun _ _ => atLineEnd_of_isLine htext, Event.newlines_append,
      Event.newlines_eq_nil (isNewline_offer r b), ih (continuation_offer r b) htext]
    rfl

/-- Where lines are not joined, the line ends of a reading are those of its input. -/
theorem newlines_events (hc : m.continuesLines = false) {r : Reading m}
    (hr : r.continuation = .none) (input : Bytes) :
    Event.newlines (r.events input) = Bytes.endings input := by
  induction input using Bytes.line_induction generalizing r with
  | last text htext => rw [newlines_lastLine hr htext, Bytes.endings_eq_nil htext]
  | line text ending rest htext hend ih =>
    rw [events_lineEnd hc hr htext hend, Event.newlines_append, newlines_line,
      Event.newlines_newline, ih rfl, Bytes.endings_append htext, Bytes.endings_lineEnd hend]
    rfl

end Reading

/-- A machine that joins no lines reports the line ends of its input, in their order, and no octet
of one in a token, whatever buffers the input comes in and whatever state it begins in. -/
theorem Machine.newlines_finish (hm : m.IsSteady) (hc : m.continuesLines = false) (state : m.State)
    (buffers : List Bytes) :
    let events := Report.events ((⟨state, none, .none⟩ : Tokenizer m).finish buffers).2
    Event.newlines events = Bytes.endings buffers.flatten ∧ ∀ event ∈ events, event.IsInLine := by
  have hfollows : (⟨state, none, .none⟩ : Tokenizer m).Follows none ⟨state, [], .none⟩ :=
    ⟨rfl, rfl, rfl, fun _ => rfl, fun _ _ h => absurd h (by simp), fun h => absurd rfl h⟩
  have hmerged : Event.merged
        (Report.events ((⟨state, none, .none⟩ : Tokenizer m).finish buffers).2)
      = Reading.events ⟨state, [], .none⟩ buffers.flatten :=
    Tokenizer.Leads.finish hm ⟨_, hfollows, rfl⟩
  have hlines := Reading.isInLine_events (r := ⟨state, [], .none⟩) hc rfl Bytes.isLine_nil
    buffers.flatten
  rw [← hmerged] at hlines
  refine ⟨?_, (Event.isInLine_of_mergedAfter hlines).2⟩
  rw [← Event.newlines_merged, hmerged]
  exact Reading.newlines_events hc rfl _

/-! ### The formats -/

namespace Format

/-- The line ends that six of the formats report are those of the input, in their order, whatever
buffers the input comes in: CR LF where the two stand together, though in different buffers, and
every other CR and LF by itself. No piece of a token has a CR or an LF. The state a machine begins
in makes no difference to this. -/
theorem newlines_eq_endings (style : Cpp.Style) {format : Format}
    (h : format ∈ [.xml, .mail, .prose, .markdown, .shell, .escapes])
    (state : (format.machine style).State) (buffers : List Bytes) :
    let t : Tokenizer (format.machine style) := { state }
    Event.newlines (Report.events (t.finish buffers).2) = Bytes.endings buffers.flatten
      ∧ ∀ kind text fragment, .token kind text fragment ∈ Report.events (t.finish buffers).2 →
        Octet.carriageReturn ∉ text ∧ Octet.lineFeed ∉ text := by
  have hc : (format.machine style).continuesLines = false := by
    rw [continuesLines_machine]
    revert h
    cases format <;> decide
  obtain ⟨hnewlines, hlines⟩ := Machine.newlines_finish (isSteady_machine style format) hc state
    buffers
  refine ⟨hnewlines, fun kind text fragment hmem => ?_⟩
  have hline : text.IsLine := hlines _ hmem
  exact ⟨fun hcr => (hline _ hcr).2 rfl, fun hlf => (hline _ hlf).1 rfl⟩

/-- A quoted word of the shell over four lines, read from behind a backslash on. The first line end
comes in two buffers, and the second one is held back until the next octet is known. -/
theorem newlines_eq_endings_quoted :
    Format.shell ∈ [Format.xml, .mail, .prose, .markdown, .shell, .escapes]
      ∧ Event.newlines (Report.events
          (({ state := .doubleQuotedEscape } : Tokenizer Shell.machine).finish
            [Bytes.ascii "\r", Bytes.ascii "\nb\r", Bytes.ascii "\"\n"]).2)
        = [[Octet.carriageReturn, Octet.lineFeed], [Octet.carriageReturn], [Octet.lineFeed]] := by
  have h : Format.shell ∈ [Format.xml, .mail, .prose, .markdown, .shell, .escapes] := by decide
  refine ⟨h, (newlines_eq_endings defaultStyle h .doubleQuotedEscape _).1.trans ?_⟩
  decide

end Format

end MarkupFeed
