import MarkupFeed.Proofs.Text.Utf8
import MarkupFeed.Proofs.Tokenizer.Scan
import MarkupFeed.Proofs.Tokenizer.Tokens

/-!
# Inputs whose lines are not joined, read line by line

`Bytes.lines` splits an input; `Bytes.line_induction` goes through it from line end to line end. An
input is read up to a place where a line is complete (`Bytes.EndsLines`) by itself, unless the place
cuts a CR LF in two (`Bytes.CutsNoLineEnd`).
`Reading.line` takes a machine over one line to its end, and where no line is joined with the next
one (`Machine.Separates`) a reading of an input is a sequence of lines
(`Reading.events_of_separates`). Where a machine joins no lines at all, no token has an octet of a
line end (`Reading.isInLine_events`).
-/

namespace MarkupFeed

/-! ### The lines of an input -/

namespace Reading

/-- A line end in front of the rest of an input. A CR in front of an LF is a part of one only. -/
def EndsLine (ending rest : Bytes) : Prop :=
  ending ∈ Bytes.lineEnds ∧ (ending = [Octet.carriageReturn] → rest.head? ≠ some Octet.lineFeed)

theorem endsLine_lineFeed (rest : Bytes) : EndsLine [Octet.lineFeed] rest :=
  ⟨List.mem_cons_self, fun h => absurd h (by decide)⟩

/-- An input is a line, or has a first one. -/
theorem exists_lineEnd (input : Bytes) :
    input.IsLine ∨ ∃ text ending rest, input = text ++ (ending ++ rest) ∧ text.IsLine
      ∧ EndsLine ending rest := by
  induction input with
  | nil => exact .inl Bytes.isLine_nil
  | cons b rest ih =>
    by_cases hlf : b = Octet.lineFeed
    · exact .inr ⟨[], [b], rest, rfl, Bytes.isLine_nil, hlf ▸ endsLine_lineFeed rest⟩
    by_cases hcr : b = Octet.carriageReturn
    · by_cases hnext : rest.head? = some Octet.lineFeed
      · -- the CR is the first half of a CR LF
        obtain ⟨tail, rfl⟩ := List.head?_eq_some_iff.mp hnext
        refine .inr ⟨[], [b, Octet.lineFeed], tail, rfl, Bytes.isLine_nil, ?_, ?_⟩
        · simp [Bytes.lineEnds, hcr]
        · exact fun h => absurd h (by simp)
      · refine .inr ⟨[], [b], rest, rfl, Bytes.isLine_nil, ?_, fun _ => hnext⟩
        simp [Bytes.lineEnds, hcr]
    rcases ih with hline | ⟨text, ending, tail, rfl, hline, hend⟩
    · exact .inl (List.forall_mem_cons.mpr ⟨⟨hlf, hcr⟩, hline⟩)
    · exact .inr ⟨b :: text, ending, tail, rfl, List.forall_mem_cons.mpr ⟨⟨hlf, hcr⟩, hline⟩, hend⟩

/-- No LF belongs to a line end that is over. -/
theorem EndsLine.getLast?_ne {ending rest : Bytes} (h : EndsLine ending rest) (front : Bytes)
    (hrest : rest.head? = some Octet.lineFeed) :
    (front ++ ending).getLast? ≠ some Octet.carriageReturn := by
  obtain ⟨hending, hcr⟩ := h
  simp only [Bytes.lineEnds, List.mem_cons, List.not_mem_nil, or_false] at hending
  rcases hending with rfl | rfl | rfl
  · simp [show Octet.lineFeed ≠ Octet.carriageReturn by decide]
  · exact absurd hrest (hcr rfl)
  · simp [show Octet.lineFeed ≠ Octet.carriageReturn by decide]

end Reading

namespace Bytes

/-- An input goes from line end to line end, up to a last line without one. -/
@[elab_as_elim]
theorem line_induction {motive : Bytes → Prop} (last : ∀ text : Bytes, text.IsLine → motive text)
    (line : ∀ text ending rest : Bytes, text.IsLine → Reading.EndsLine ending rest → motive rest →
      motive (text ++ (ending ++ rest))) (input : Bytes) : motive input := by
  induction hlength : input.length using Nat.strongRecOn generalizing input with
  | ind n ih =>
    rcases Reading.exists_lineEnd input with hline | ⟨text, ending, rest, rfl, htext, hend⟩
    · exact last input hline
    · have hne : ending ≠ [] := fun h => absurd (h ▸ hend.1) (by decide)
      have hpos := List.length_pos_iff.mpr hne
      have hshort : rest.length < n := by
        rw [← hlength, List.length_append, List.length_append]
        omega
      exact line text ending rest htext hend (ih _ hshort rest rfl)

/-- The lines of an input behind octets of the first one, without their ends. -/
def linesFrom : Bytes → Bytes → List Bytes
  | line, [] => if line.isEmpty then [] else [line]
  | line, b :: rest =>
    if b = Octet.lineFeed then line :: linesFrom [] rest
    else if b = Octet.carriageReturn then
      if rest.head? = some Octet.lineFeed then
        line :: match rest with
          | [] => []
          | _ :: tail => linesFrom [] tail
      else line :: linesFrom [] rest
    else linesFrom (line ++ [b]) rest

/-- The lines of an input, split at LF, CR and CR LF. What follows the last line end is a line if
there is something. -/
def lines (input : Bytes) : List Bytes := linesFrom [] input

theorem linesFrom_lineEnd (front : Bytes) {text : Bytes} (htext : text.IsLine)
    {ending rest : Bytes} (hend : Reading.EndsLine ending rest) :
    linesFrom front (text ++ (ending ++ rest)) = (front ++ text) :: rest.lines := by
  induction text generalizing front with
  | nil =>
    obtain ⟨hending, hrest⟩ := hend
    simp only [lineEnds, List.mem_cons, List.not_mem_nil, or_false] at hending
    rcases hending with rfl | rfl | rfl
    · show linesFrom front (Octet.lineFeed :: rest) = _
      rw [linesFrom.eq_def]
      simp [lines]
    · show linesFrom front (Octet.carriageReturn :: rest) = _
      rw [linesFrom.eq_def]
      simp [lines, hrest rfl, show Octet.carriageReturn ≠ Octet.lineFeed by decide]
    · show linesFrom front (Octet.carriageReturn :: Octet.lineFeed :: rest) = _
      rw [linesFrom.eq_def]
      simp [lines, show Octet.carriageReturn ≠ Octet.lineFeed by decide]
  | cons b text ih =>
    rw [IsLine, List.forall_mem_cons] at htext
    obtain ⟨hb, htext⟩ := htext
    rw [List.cons_append, linesFrom.eq_def]
    simp only [if_neg hb.1, if_neg hb.2]
    rw [ih (front ++ [b]) htext, List.append_assoc]
    rfl

/-- A line with its end is the first one. -/
theorem lines_lineEnd {text : Bytes} (htext : text.IsLine) {ending rest : Bytes}
    (hend : Reading.EndsLine ending rest) : lines (text ++ (ending ++ rest)) = text :: rest.lines :=
  linesFrom_lineEnd [] htext hend

theorem linesFrom_lastLine (front : Bytes) {text : Bytes} (htext : text.IsLine) :
    linesFrom front text = if (front ++ text).isEmpty then [] else [front ++ text] := by
  induction text generalizing front with
  | nil =>
    rw [List.append_nil]
    rfl
  | cons b text ih =>
    rw [IsLine, List.forall_mem_cons] at htext
    obtain ⟨hb, htext⟩ := htext
    rw [linesFrom.eq_def]
    simp only [if_neg hb.1, if_neg hb.2]
    rw [ih (front ++ [b]) htext, List.append_assoc]
    rfl

/-- A last line without an end is one if it has octets. -/
theorem lines_lastLine {text : Bytes} (htext : text.IsLine) :
    lines text = if text.isEmpty then [] else [text] :=
  linesFrom_lastLine [] htext

/-! ### Complete lines -/

/-- Whether the last line of an input is complete. No octets are no line. -/
def EndsLines (input : Bytes) : Prop :=
  ∀ b ∈ input.getLast?, b = Octet.lineFeed ∨ b = Octet.carriageReturn

theorem EndsLines.of_append {front input : Bytes} (h : EndsLines (front ++ input)) :
    input.EndsLines := by
  intro b hb
  refine h b ?_
  rw [List.getLast?_append, Option.mem_def.mp hb]
  rfl

theorem EndsLines.eq_nil {input : Bytes} (h : input.EndsLines) (hline : input.IsLine) :
    input = [] := by
  cases hlast : input.getLast? with
  | none => exact List.getLast?_eq_none_iff.mp hlast
  | some b =>
    have hb := hline b (List.mem_of_getLast? hlast)
    rcases h b hlast with hlf | hcr
    · exact absurd hlf hb.1
    · exact absurd hcr hb.2

instance decidableEndsLines (input : Bytes) : Decidable input.EndsLines :=
  decidable_of_iff (input.getLast?.all fun b => b == Octet.lineFeed || b == Octet.carriageReturn)
    (by simp [EndsLines, Option.all_eq_true, Option.mem_def])

theorem endsLines_iff_eq_nil {text : Bytes} (htext : text.IsLine) :
    text.EndsLines ↔ text = [] := by
  refine ⟨fun h => h.eq_nil htext, ?_⟩
  rintro rfl b hb
  exact absurd hb (by simp)

/-- Behind a line end, the last line is complete if what follows has no other one. -/
theorem endsLines_lineEnd_iff {text ending : Bytes} (hending : ending ∈ lineEnds)
    (rest : Bytes) : EndsLines (text ++ (ending ++ rest)) ↔ rest.EndsLines := by
  refine ⟨fun h => h.of_append.of_append, ?_⟩
  intro h b hb
  rw [← List.append_assoc, List.getLast?_append] at hb
  cases hlast : rest.getLast? with
  | some c =>
    rw [hlast] at hb
    exact h b (hlast.trans hb)
  | none =>
    have hne : ending ≠ [] := fun hnil => absurd (hnil ▸ hending) (by decide)
    rw [hlast, List.getLast?_append, List.getLast?_eq_some_getLast hne] at hb
    exact eq_or_eq_of_mem_lineEnds hending (Option.some.inj hb ▸ List.getLast_mem hne)

/-- No CR LF is cut in two where one part of an input ends and the next one begins. -/
def CutsNoLineEnd (front rest : Bytes) : Prop :=
  front.getLast? = some Octet.carriageReturn → rest.head? ≠ some Octet.lineFeed

theorem CutsNoLineEnd.of_append {before front rest : Bytes}
    (h : CutsNoLineEnd (before ++ front) rest) : CutsNoLineEnd front rest := by
  intro hlast
  refine h ?_
  rw [List.getLast?_append, hlast]
  rfl

theorem cutsNoLineEnd_lineEnd {ending rest : Bytes} (hend : Reading.EndsLine ending rest)
    (front : Bytes) : CutsNoLineEnd (front ++ ending) rest :=
  fun hlast hrest => hend.getLast?_ne front hrest hlast

/-- A line end with the lines behind it is one in front of more lines, too. -/
theorem CutsNoLineEnd.endsLine {ending rest more : Bytes} (h : CutsNoLineEnd (ending ++ rest) more)
    (hend : Reading.EndsLine ending rest) : Reading.EndsLine ending (rest ++ more) := by
  refine ⟨hend.1, fun hcr => ?_⟩
  cases rest with
  | nil => exact h (by simp [hcr])
  | cons b rest => exact hend.2 hcr

/-- The lines of an input whose first part ends with a complete line are those of its parts. -/
theorem lines_append {front rest : Bytes} (hfront : front.EndsLines)
    (h : CutsNoLineEnd front rest) : lines (front ++ rest) = front.lines ++ rest.lines := by
  induction front using line_induction with
  | last text htext =>
    rw [hfront.eq_nil htext]
    rfl
  | line text ending later htext hend ih =>
    rw [List.append_assoc, List.append_assoc, lines_lineEnd htext (h.of_append.endsLine hend),
      lines_lineEnd htext hend, ih hfront.of_append.of_append h.of_append.of_append]
    rfl

end Bytes

/-- The machine does not join the line with the one behind it. -/
def Machine.Separates (m : Machine) (text : Bytes) : Prop :=
  m.continuesLines = true → text.getLast? ≠ some Octet.backslash

theorem Machine.separates_of_eq_false {m : Machine} (hm : m.continuesLines = false) (text : Bytes) :
    m.Separates text :=
  fun htrue => absurd htrue (by simp [hm])

theorem Machine.Separates.of_cons {m : Machine} {b : UInt8} {text : Bytes}
    (h : m.Separates (b :: text)) : m.Separates text := by
  intro hm hlast
  cases text with
  | nil => simp at hlast
  | cons c text => exact h hm (by rwa [List.getLast?_cons_cons])

/-- Whether the event is a line end or a token within a line. -/
def Event.IsInLine {κ : Type} : Event κ → Prop
  | .token _ text _ => text.IsLine
  | .newline _ => True

namespace Reading

variable {m : Machine}

/-! ### One line -/

/-- Reads the octets of a line to its end: the tokens of the line, and the state in front of the
line end. -/
def line : Reading m → Bytes → List (Event m.Kind) × m.State
  | r, [] => r.beforeLineEnd
  | r, b :: rest =>
    ((r.offer b).1 ++ ((r.offer b).2.line rest).1, ((r.offer b).2.line rest).2)

theorem continuation_take (r : Reading m) (b : UInt8) : (r.take b).2.continuation = .none := by
  unfold take
  split <;> rfl

theorem continuation_offer (r : Reading m) (b : UInt8) : (r.offer b).2.continuation = .none := by
  unfold offer
  split
  · exact continuation_take _ b
  · exact continuation_take r b

/-- An octet that goes on a token completes nothing. -/
theorem offer_of_shift {r : Reading m} {b : UInt8} {next : m.State}
    (h : m.step r.state b = .shift next) : r.offer b = ([], ⟨next, r.run ++ [b], .none⟩) := by
  rw [offer, take, h]
  cases m.isIdle r.state <;> rfl

/-- A line does not begin with a line end. -/
theorem atLineEnd_of_isLine {text : Bytes} (htext : text.IsLine) : atLineEnd text = false := by
  cases text with
  | nil => rfl
  | cons b text =>
    obtain ⟨hlf, hcr⟩ := htext b List.mem_cons_self
    rw [Bool.eq_false_iff, Ne, atLineEnd_iff]
    rintro (h | h)
    · exact hlf (Option.some.inj h)
    · exact hcr (Option.some.inj h)

/-- An octet of a line is offered to the machine, unless it joins the line with the next one. -/
theorem advance_of_isLine (r : Reading m) {b : UInt8}
    (hb : b ≠ Octet.lineFeed ∧ b ≠ Octet.carriageReturn) {rest : Bytes}
    (hjoin : b = Octet.backslash → m.continuesLines = true → atLineEnd rest = false) :
    r.advance b rest = r.offer b := by
  rw [advance, if_neg (not_or.mpr hb), if_neg]
  rintro ⟨hback, hjoins, hrest⟩
  simp only [joinsLines, Bool.and_eq_true] at hjoins
  exact absurd hrest (by simp [hjoin hback hjoins.1.1])

/-- Only the last octet of a line may join it with the next one. -/
theorem atLineEnd_of_separates {b : UInt8} {text : Bytes} (htext : text.IsLine)
    (hsep : m.Separates (b :: text)) (rest : Bytes) (hback : b = Octet.backslash)
    (hm : m.continuesLines = true) : atLineEnd (text ++ rest) = false := by
  cases text with
  | nil => exact absurd (congrArg some hback) (hsep hm)
  | cons c text =>
    have hfirst : atLineEnd [c] = false :=
      atLineEnd_of_isLine (List.forall_mem_singleton.mpr (htext c List.mem_cons_self))
    exact hfirst

/-- A line with its end, and what follows. -/
theorem events_of_separates {r : Reading m} (hr : r.continuation = .none) {text : Bytes}
    (htext : text.IsLine) (hsep : m.Separates text) {ending rest : Bytes}
    (hend : EndsLine ending rest) :
    r.events (text ++ (ending ++ rest))
      = (r.line text).1 ++ .newline ending
        :: events ⟨m.newline (r.line text).2, [], .none⟩ rest := by
  induction text generalizing r with
  | nil =>
    obtain ⟨hending, hrest⟩ := hend
    simp only [Bytes.lineEnds, List.mem_cons, List.not_mem_nil, or_false] at hending
    rcases hending with rfl | rfl | rfl
    · have hlf : ¬(Octet.lineFeed = Octet.carriageReturn ∧ rest.head? = some Octet.lineFeed) :=
        fun h => absurd h.1 (by decide)
      show r.events (Octet.lineFeed :: rest) = _
      rw [events_cons hr hlf, advance, if_pos (.inl rfl), lineEnd, line]
      simp
    · show r.events (Octet.carriageReturn :: rest) = _
      rw [events_cons hr fun h => hrest rfl h.2, advance, if_pos (.inr rfl), lineEnd, line]
      simp
    · show r.events (Octet.carriageReturn :: Octet.lineFeed :: rest) = _
      rw [events_crlf hr, lineEnd, line]
      simp
  | cons b text ih =>
    rw [Bytes.IsLine, List.forall_mem_cons] at htext
    obtain ⟨hb, htext⟩ := htext
    have hcr : ¬(b = Octet.carriageReturn
        ∧ (text ++ (ending ++ rest)).head? = some Octet.lineFeed) := fun h => hb.2 h.1
    rw [List.cons_append, events_cons hr hcr,
      advance_of_isLine r hb (atLineEnd_of_separates htext hsep _),
      ih (continuation_offer r b) htext hsep.of_cons, line]
    simp

/-- Where lines are not continued, none is joined with the next one. -/
theorem events_lineEnd (hm : m.continuesLines = false) {r : Reading m} (hr : r.continuation = .none)
    {text : Bytes} (htext : text.IsLine) {ending rest : Bytes} (hend : EndsLine ending rest) :
    r.events (text ++ (ending ++ rest))
      = (r.line text).1 ++ .newline ending
        :: events ⟨m.newline (r.line text).2, [], .none⟩ rest :=
  events_of_separates hr htext (Machine.separates_of_eq_false hm text) hend

/-- A part of one line at the front of an input stands in its first line. -/
theorem isPrefix_line {part text ending rest : Bytes} (hpart : part.IsLine)
    (hending : ending ∈ Bytes.lineEnds) (h : part <+: text ++ (ending ++ rest)) :
    part <+: text := by
  rcases List.prefix_or_prefix_of_prefix h (List.prefix_append text _) with hshort | hlong
  · exact hshort
  · obtain ⟨more, rfl⟩ := hlong
    rw [List.prefix_append_right_inj] at h
    cases more with
    | nil => exact (List.append_nil text).symm ▸ List.prefix_rfl
    | cons b more =>
      -- what is left of the part would have to begin like the line end
      have hb := hpart b (List.mem_append_right _ List.mem_cons_self)
      simp only [Bytes.lineEnds, List.mem_cons, List.not_mem_nil, or_false] at hending
      rcases hending with rfl | rfl | rfl
      · exact absurd (List.cons_prefix_cons.mp h).1 hb.1
      · exact absurd (List.cons_prefix_cons.mp h).1 hb.2
      · exact absurd (List.cons_prefix_cons.mp h).1 hb.2

/-- A last line without an end. -/
theorem events_lastLine (hspans : ∀ s, m.spansNewline s = false) {r : Reading m}
    (hr : r.continuation = .none) {text : Bytes} (htext : text.IsLine) :
    r.events text = (r.line text).1 := by
  induction text generalizing r with
  | nil =>
    show r.ending = r.beforeLineEnd.1
    rw [ending, beforeLineEnd, hspans]
    split <;> rfl
  | cons b text ih =>
    rw [Bytes.IsLine, List.forall_mem_cons] at htext
    obtain ⟨hb, htext⟩ := htext
    rw [events_cons hr fun h => hb.2 h.1,
      advance_of_isLine r hb fun _ _ => atLineEnd_of_isLine htext,
      ih (continuation_offer r b) htext, line]

/-- A machine that stays in a state takes the line up to its end into one token. -/
theorem line_of_shift {s : m.State} (hbusy : m.isIdle s = false) (hspans : m.spansNewline s = false)
    (hshift : ∀ b, m.step s b = .shift s) (run text : Bytes) :
    line ⟨s, run, .none⟩ text = ([.token (m.finish s).1 (run ++ text) false], (m.finish s).2) := by
  induction text generalizing run with
  | nil =>
    rw [line, beforeLineEnd, hbusy, hspans, List.append_nil]
    rfl
  | cons b text ih =>
    rw [line, offer_of_shift (hshift b), ih, List.append_assoc]
    rfl

/-- Where no token outlives a line end, there is none in progress in front of it. -/
theorem isIdle_line (hspans : ∀ s, m.spansNewline s = false) (r : Reading m) (text : Bytes) :
    m.isIdle (r.line text).2 = true := by
  induction text generalizing r with
  | nil =>
    rw [line, beforeLineEnd, hspans]
    split
    · next hidle => exact hidle
    · exact m.isIdle_finish r.state
  | cons b text ih => exact ih _

/-- Where no token outlives a line end, the tokens of a line are whole. -/
theorem isFragment_line (hspans : ∀ s, m.spansNewline s = false) (r : Reading m) (text : Bytes) :
    ∀ event ∈ (r.line text).1, event.isFragment = false := by
  induction text generalizing r with
  | nil =>
    rw [line, beforeLineEnd, hspans]
    split <;> simp [Event.isFragment]
  | cons b text ih => exact List.forall_mem_append.mpr ⟨isFragment_offer r b, ih _⟩

theorem isFragment_events (hm : m.continuesLines = false) (hspans : ∀ s, m.spansNewline s = false)
    {r : Reading m} (hr : r.continuation = .none) (input : Bytes) :
    ∀ event ∈ r.events input, event.isFragment = false := by
  induction input using Bytes.line_induction generalizing r with
  | last text htext =>
    rw [events_lastLine hspans hr htext]
    exact isFragment_line hspans r text
  | line text ending rest htext hend ih =>
    rw [events_lineEnd hm hr htext hend, List.forall_mem_append, List.forall_mem_cons]
    exact ⟨isFragment_line hspans r text, rfl, ih rfl⟩

/-! ### Tokens within lines -/

/-- Where lines are not continued, octets of a line make up every token. -/
theorem runsKeep_isLine (hm : m.continuesLines = false) :
    m.RunsKeep fun c run => c = .none ∧ run.IsLine where
  nil := ⟨rfl, Bytes.isLine_nil⟩
  octet h hlf hcr :=
    ⟨rfl, Bytes.isLine_append.mpr ⟨h.2, List.forall_mem_singleton.mpr ⟨hlf, hcr⟩⟩⟩
  join hjoins := absurd hjoins (by simp [hm])
  extend h hext := by
    rw [h.1, Continuation.extend] at hext
    exact absurd hext (by simp)

/-- Where lines are not continued, no token has an octet of a line end. -/
theorem isLine_events (hm : m.continuesLines = false) {r : Reading m} (hr : r.continuation = .none)
    (hrun : r.run.IsLine) (input : Bytes) :
    ∀ event ∈ r.events input, event.IsMadeOf Bytes.IsLine := by
  intro event hevent
  refine (isMadeOf_events (runsKeep_isLine hm) ⟨hr, hrun⟩ input event hevent).mono ?_
  rintro text ⟨_, -, hline⟩
  exact hline

theorem isInLine_events (hm : m.continuesLines = false) {r : Reading m}
    (hr : r.continuation = .none) (hrun : r.run.IsLine) (input : Bytes) :
    ∀ event ∈ r.events input, event.IsInLine := by
  intro event hevent
  have hmade := isLine_events hm hr hrun input event hevent
  cases event with
  | token kind text fragment => exact hmade
  | newline text => trivial

end Reading

end MarkupFeed
