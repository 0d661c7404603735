import MarkupFeed.Proofs.Format.Steady
import MarkupFeed.Proofs.Tokenizer.Joining

/-!
# Line ends in formats where a backslash joins lines

`Machine.OpensEscapes` collects what is to be shown of the octets that open an escape; the next
octet is escaped then only behind such an octet (`Machine.exists_of_isEscaping`). In C and C++ that
is a backslash in the quotes of a literal, not escaped itself. With this, `Format.joins_or_reports`
tells of every line end whether it is reported.
-/

namespace MarkupFeed

variable {m : Machine}

/-! ### Escapes -/

/-- What `opens` says of the octets, and of the states they are read in, that make the machine take
the next octet as escaped. -/
structure Machine.OpensEscapes (m : Machine) (opens : m.State → UInt8 → Prop) : Prop where
  start : m.isEscaping m.start = false
  /-- Nothing is escaped between tokens. -/
  idle : ∀ {s}, m.isIdle s = true → m.isEscaping s = false
  step : ∀ {s b next}, m.step s b = .shift next → m.isEscaping next = true →
    m.isIdle s = false ∧ opens s b
  /-- Nothing is escaped at the start of a line. -/
  newline : ∀ {s}, m.isIdle s = true ∨ m.spansNewline s = true → m.isEscaping (m.newline s) = false

namespace Reading

variable {opens : m.State → UInt8 → Prop} {r : Reading m}

theorem isEscaping_lineEnd (ho : m.OpensEscapes opens) (r : Reading m) (text : Bytes) :
    m.isEscaping (r.lineEnd text).2.state = false := by
  refine ho.newline ?_
  unfold beforeLineEnd
  split
  · next hidle => exact .inl hidle
  split
  · next hspans => exact .inr hspans
  · exact .inl (m.isIdle_finish _)

theorem step_of_isEscaping_take (ho : m.OpensEscapes opens) {b : UInt8}
    (h : m.isEscaping (r.take b).2.state = true) : m.isIdle r.state = false ∧ opens r.state b := by
  cases hstep : m.step r.state b with
  | shift next =>
    simp only [take, hstep] at h
    exact ho.step hstep h
  | accept next =>
    simp only [take, hstep] at h
    exact absurd h (by simp [ho.idle (m.isIdle_finish _)])
  | reject next =>
    simp only [take, hstep] at h
    exact absurd h (by simp [ho.idle (m.isIdle_finish _)])

/-- The octet that is offered opens the escape. -/
theorem opens_of_isEscaping_offer (ho : m.OpensEscapes opens) {b : UInt8}
    (h : m.isEscaping (r.offer b).2.state = true) : opens r.state b := by
  unfold offer at h
  split at h
  · next next _ _ =>
    -- between tokens no octet opens one
    obtain ⟨hbusy, -⟩ := step_of_isEscaping_take ho h
    exact absurd (m.isIdle_finish next) (by simp [hbusy])
  · exact (step_of_isEscaping_take ho h).2

/-- Lines are not joined behind an octet that opens an escape. -/
theorem Place.Reaches.continuation_eq {input : Bytes} {q : Place m}
    (h : (start m input).Reaches q) (hescaping : m.isEscaping q.reading.state = true) :
    q.reading.continuation = .none := by
  induction h with
  | refl => rfl
  | tail _ hnext ih =>
    cases hnext with
    | @reads given more r r' input rest hreads =>
      cases hreads with
      | extend hextend =>
        have hnone : r.continuation = .none := ih hescaping
        rw [hnone] at hextend
        exact absurd hextend (by simp [Continuation.extend])
      | lineEnd hend hextend => rfl
      | join hjoins hrest =>
        simp only [joinsLines, Bool.and_eq_true, Bool.not_eq_true'] at hjoins
        exact absurd hescaping (by simp [hjoins.2])
      | offer hb hjoins => exact continuation_offer r _

end Reading

open Reading (Place) in
/-- An octet is escaped only behind one that opens an escape. -/
theorem Machine.exists_of_isEscaping {opens : m.State → UInt8 → Prop} (ho : m.OpensEscapes opens)
    {front : Bytes} {b : UInt8}
    (hb : b = Octet.lineFeed → front.getLast? ≠ some Octet.carriageReturn)
    (h : m.isEscaping (m.stateBefore front b) = true) :
    ∃ literal c, front = literal ++ [c] ∧ opens (m.stateBefore literal c) c := by
  obtain ⟨p, hreach, hrest, hstate⟩ := Place.exists_reaches_stateBefore m front b [] hb
  rw [← hstate] at h
  rcases hreach.cases_tail with rfl | ⟨before, hbefore, hnext⟩
  · exact absurd h (by simp [Place.start, ho.start])
  · have hlater := Place.Reaches.continuation_eq hbefore
    cases hnext with
    | @reads given more r r' input rest hreads =>
      cases hreads with
      | extend hextend =>
        have hnone : r.continuation = .none := hlater h
        rw [hnone] at hextend
        exact absurd hextend (by simp [Continuation.extend])
      | join hjoins hrest' =>
        simp only [Reading.joinsLines, Bool.and_eq_true, Bool.not_eq_true'] at hjoins
        exact absurd h (by simp [hjoins.2])
      | lineEnd hend hextend =>
        exact absurd h (by simp [Reading.isEscaping_lineEnd ho])
      | @offer c rest hc hjoins =>
        obtain rfl : rest = [b] := hrest
        obtain ⟨literal, hliteral⟩ := Place.Reaches.suffix hbefore
        have hinput : literal ++ c :: [b] = front ++ [b] := hliteral
        have hfront : front = literal ++ [c] := by
          have hlast : front ++ [b] = literal ++ [c] ++ [b] := by
            rw [← hinput, List.append_assoc]
            rfl
          exact List.append_cancel_right hlast
        refine ⟨literal, c, hfront, ?_⟩
        rw [← hinput] at hbefore
        rw [← Place.Reaches.state_eq hbefore rfl fun hlf => absurd (.inl hlf) hc]
        exact Reading.opens_of_isEscaping_offer ho h

/-! ### The formats -/

namespace Cpp

theorem opensEscapes_machine (style : Style) :
    (machine style).OpensEscapes State.OpensEscape where
  start := rfl
  idle {s} hidle := by
    cases s with
    | escape quote => exact absurd hidle (by simp [machine])
    | _ => rfl
  step {s b next} hstep hescape := by
    have hshifts := State.shifts_step s b
    rw [show State.step s b = .shift next from hstep] at hshifts
    have hopens := hshifts.2 hescape
    refine ⟨beq_eq_false_iff_ne.mpr ?_, hopens⟩
    rintro rfl
    exact absurd hopens.2.2 (by decide)
  newline {s} hs := by
    cases s with
    | escape quote => exact absurd hs (by simp [machine, State.isBlockComment])
    | _ => rfl

end Cpp

namespace Format

/-- A backslash is escaped in C and C++ only, and there by a backslash in the quotes of a literal
that is not escaped itself. -/
theorem exists_of_isEscaping (style : Cpp.Style) (format : Format) (front : Bytes) :
    let m := format.machine style
    m.isEscaping (m.stateBefore front Octet.backslash) = true →
      format = .cpp ∧ ∃ literal, front = literal ++ [Octet.backslash]
        ∧ m.isEscaping (m.stateBefore literal Octet.backslash) = false
        ∧ TokenKind.title (m.kind (m.stateBefore literal Octet.backslash))
          ∈ ["characterLiteral", "stringLiteral"] := by
  intro m h
  cases format with
  | cpp =>
    obtain ⟨literal, c, hfront, rfl, hescape, hkind⟩ :=
      Machine.exists_of_isEscaping (Cpp.opensEscapes_machine style)
        (fun hlf => absurd hlf (by decide)) h
    refine ⟨rfl, literal, hfront, hescape, List.mem_cons.mpr ?_⟩
    rcases hkind with hkind | hkind
    · exact .inl (congrArg TokenKind.title hkind)
    · exact .inr (List.mem_singleton.mpr (congrArg TokenKind.title hkind))
  | _ => exact absurd (show false = true from h) Bool.false_ne_true

/-- Where a backslash stands in front of a line end, inside a token and not escaped, C and C++ and
diagnostics join the two lines: no line end is reported, one token has both the backslash and the
line end, and the machine is behind them in the state it was in before. Every other line end is
reported once, and nothing else is. A backslash is escaped only by another one in a character or
string literal, which is not escaped itself. -/
theorem joins_or_reports (style : Cpp.Style) {format : Format} (h : format ∈ [.cpp, .diagnostics])
    (buffers : List Bytes) :
    let m := format.machine style
    (∀ front ending rest, buffers.flatten = front ++ Octet.backslash :: (ending ++ rest) →
        Reading.EndsLine ending rest → m.JoinsBehind front →
        (∀ before text after, m.events buffers = before ++ .newline text :: after →
          Event.source before ≠ front ++ [Octet.backslash])
        ∧ (∃ before kind opening more fragment after,
          Event.merged (m.events buffers) = before
            ++ .token kind (opening ++ Octet.backslash :: (ending ++ more)) fragment :: after
          ∧ Event.source before ++ opening = front)
        ∧ ∀ b ∈ rest.head?, m.stateBefore (front ++ Octet.backslash :: ending) b
          = m.stateBefore front Octet.backslash)
      ∧ (∀ front ending rest, buffers.flatten = front ++ (ending ++ rest) →
        Bytes.HasLineEnd front ending rest →
        (∀ text, front = text ++ [Octet.backslash] → ¬m.JoinsBehind text) →
        ∃! before, ∃ after, m.events buffers = before ++ .newline ending :: after
          ∧ Event.source before = front)
      ∧ (∀ before text after, m.events buffers = before ++ .newline text :: after →
        ∃ rest, buffers.flatten = Event.source before ++ (text ++ rest)
          ∧ Bytes.HasLineEnd (Event.source before) text rest)
      ∧ ∀ front, m.isEscaping (m.stateBefore front Octet.backslash) = true →
        format = .cpp ∧ ∃ literal, front = literal ++ [Octet.backslash]
          ∧ m.isEscaping (m.stateBefore literal Octet.backslash) = false
          ∧ TokenKind.title (m.kind (m.stateBefore literal Octet.backslash))
            ∈ ["characterLiteral", "stringLiteral"] := by
  intro m
  have hm : m.IsSteady := isSteady_machine style format
  have hc : m.continuesLines = true :=
    (continuesLines_machine style format).trans (decide_eq_true h)
  refine ⟨?_, ?_, ?_, exists_of_isEscaping style format⟩
  · intro front ending rest hinput hend hjoins
    refine ⟨?_, Machine.exists_token_of_joinsBehind hm hc hinput hend hjoins, ?_⟩
    · intro before text after hevents
      exact Machine.source_ne_of_joinsBehind hm hc hinput hend hjoins hevents
    · intro b hb
      exact Machine.stateBefore_of_joinsBehind hc hend hjoins hb
  · intro front ending rest hinput hend hjoins
    exact Machine.existsUnique_newline hm hc hinput hend hjoins
  · intro before text after hevents
    obtain ⟨-, rest, -, -, -, hinput, hend, -⟩ := Machine.exists_reaches_of_newline hm hevents
    exact ⟨rest, hinput, hend⟩

/-- A string over two lines, joined by a backslash with a CR LF that comes in three buffers, and cut
off by an LF behind a backslash that is escaped. -/
theorem joins_or_reports_string :
    let m := Cpp.machine defaultStyle
    let buffers := [Bytes.ascii "\"a\\", Bytes.ascii "\r", Bytes.ascii "\n\\\\\n\""]
    Format.cpp ∈ [Format.cpp, .diagnostics]
      ∧ buffers.flatten = Bytes.ascii "\"a" ++ Octet.backslash
        :: ([Octet.carriageReturn, Octet.lineFeed] ++ Bytes.ascii "\\\\\n\"")
      ∧ Reading.EndsLine [Octet.carriageReturn, Octet.lineFeed] (Bytes.ascii "\\\\\n\"")
      ∧ m.JoinsBehind (Bytes.ascii "\"a")
      ∧ m.stateBefore (Bytes.ascii "\"a\\\r\n") Octet.backslash
        = m.stateBefore (Bytes.ascii "\"a") Octet.backslash
      ∧ ∃! before, ∃ after, m.events buffers = before ++ .newline [Octet.lineFeed] :: after
        ∧ Event.source before = Bytes.ascii "\"a\\\r\n\\\\" := by
  intro m buffers
  have hmem : Format.cpp ∈ [Format.cpp, .diagnostics] := List.mem_cons_self
  obtain ⟨hjoined, hreported, -⟩ := joins_or_reports defaultStyle hmem buffers
  have hinput : buffers.flatten = Bytes.ascii "\"a" ++ Octet.backslash
      :: ([Octet.carriageReturn, Octet.lineFeed] ++ Bytes.ascii "\\\\\n\"") := by decide
  have hend : Reading.EndsLine [Octet.carriageReturn, Octet.lineFeed]
      (Bytes.ascii "\\\\\n\"") := ⟨by decide, fun h => absurd h (by decide)⟩
  have hjoins : m.JoinsBehind (Bytes.ascii "\"a") := ⟨by decide, by decide⟩
  refine ⟨hmem, hinput, hend, hjoins, ?_, ?_⟩
  · exact (hjoined _ _ _ hinput hend hjoins).2.2 Octet.backslash rfl
  · refine hreported _ [Octet.lineFeed] (Bytes.ascii "\"") (by decide)
      ⟨⟨by decide, fun h => absurd h (by decide)⟩, fun _ => by decide⟩ ?_
    intro text htext hjoins
    -- the backslash is the second one of two
    obtain rfl : text = Bytes.ascii "\"a\\\r\n\\" :=
      List.append_cancel_right (htext.symm.trans (by decide))
    exact absurd hjoins.2 (by decide)

/-- Between tokens a backslash in front of a line end joins nothing: it is an error, and the line
end is reported, though no backslash escapes it. -/
theorem reported_behind_lone_backslash :
    Reading.EndsLine [Octet.lineFeed] []
      ∧ ((Cpp.machine defaultStyle).isEscaping
          ((Cpp.machine defaultStyle).stateBefore [] Octet.backslash) = false
        ∧ (Cpp.machine defaultStyle).events [[Octet.backslash, Octet.lineFeed]]
          = [.token Cpp.Kind.error [Octet.backslash] false, .newline [Octet.lineFeed]])
      ∧ Diagnostics.machine.isEscaping
          (Diagnostics.machine.stateBefore [] Octet.backslash) = false
        ∧ Diagnostics.machine.events [[Octet.backslash, Octet.lineFeed]]
          = [.token Diagnostics.Kind.error [Octet.backslash] false, .newline [Octet.lineFeed]] := by
  refine ⟨Reading.endsLine_lineFeed [], ⟨?_, ?_⟩, ?_, ?_⟩ <;> decide

end Format

end MarkupFeed
