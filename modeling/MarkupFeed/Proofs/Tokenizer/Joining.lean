import Mathlib.Logic.ExistsUnique
import MarkupFeed.Proofs.Tokenizer.Places

/-!
# Which line ends are reported, and which join two lines

A backslash in front of a line end joins the lines if the machine is inside a token there, and the
backslash is not escaped (`Machine.JoinsBehind`). Then the backslash and the line end belong to the
token: there is no line end among the events there (`Machine.source_ne_of_joinsBehind`), one merged
token has the octets (`Machine.exists_token_of_joinsBehind`), and the machine behind them is in the
state it was in before (`Machine.stateBefore_of_joinsBehind`). Every other line end of the input is
reported, once: `Machine.existsUnique_newline`.
-/

namespace MarkupFeed

variable {m : Machine}

/-- Whether a backslash behind some octets joins two lines, provided a line end follows it: the
machine is inside a token there, and not behind another backslash that escapes this one. -/
def Machine.JoinsBehind (m : Machine) (front : Bytes) : Prop :=
  m.isIdle (m.stateBefore front Octet.backslash) = false
    ∧ m.isEscaping (m.stateBefore front Octet.backslash) = false

/-- A line end goes on a line continuation behind its backslash. -/
theorem Continuation.extend_backslash_ne_none {b : UInt8}
    (hb : b = Octet.lineFeed ∨ b = Octet.carriageReturn) :
    Continuation.backslash.extend b ≠ Option.none := by
  rcases hb with rfl | rfl <;> decide

namespace Reading

variable {r : Reading m} {ending rest : Bytes}

theorem EndsLine.atLineEnd (h : EndsLine ending rest) : atLineEnd (ending ++ rest) = true := by
  obtain ⟨hending, -⟩ := h
  simp only [Bytes.lineEnds, List.mem_cons, List.not_mem_nil, or_false] at hending
  rcases hending with rfl | rfl | rfl <;> rfl

/-- A line end that begins with an LF is one. -/
theorem EndsLine.eq_lineFeed {b : UInt8} {tail : Bytes} (h : EndsLine (b :: tail) rest)
    (hb : b = Octet.lineFeed) : b :: tail = [Octet.lineFeed] := by
  obtain ⟨hending, -⟩ := h
  simp only [Bytes.lineEnds, List.mem_cons, List.not_mem_nil, or_false] at hending
  rcases hending with h | h | h
  · exact h
  · exact absurd ((List.cons.inj h).1.symm.trans hb) (by decide)
  · exact absurd ((List.cons.inj h).1.symm.trans hb) (by decide)

/-- Whether the events begin with a token that has the octets of a run in front. -/
def GivesRun (run : Bytes) (events : List (Event m.Kind)) : Prop :=
  ∃ kind more fragment after, events = .token kind (run ++ more) fragment :: after

theorem GivesRun.of_append {run more : Bytes} {events : List (Event m.Kind)}
    (h : GivesRun (run ++ more) events) : GivesRun run events := by
  obtain ⟨kind, tail, fragment, after, rfl⟩ := h
  exact ⟨kind, more ++ tail, fragment, after, by rw [List.append_assoc]⟩

theorem GivesRun.append {run : Bytes} {events : List (Event m.Kind)} (h : GivesRun run events)
    (later : List (Event m.Kind)) : GivesRun run (events ++ later) := by
  obtain ⟨kind, more, fragment, after, rfl⟩ := h
  exact ⟨kind, more, fragment, after ++ later, rfl⟩

theorem givesRun_singleton (kind : m.Kind) (run : Bytes) (fragment : Bool)
    (after : List (Event m.Kind)) : GivesRun run (.token kind run fragment :: after) :=
  ⟨kind, [], fragment, after, by rw [List.append_nil]⟩

/-- An octet goes on the token in progress, or gives it out. -/
theorem grows_or_givesRun_offer (hbusy : m.isIdle r.state = false) (b : UInt8) :
    ((r.offer b).1 = [] ∧ (r.offer b).2.run = r.run ++ [b]) ∨ GivesRun r.run (r.offer b).1 := by
  rw [offer, hbusy]
  cases hstep : m.step r.state b with
  | shift next => exact .inl (by simp [take, hstep])
  | accept next =>
    have hgives : GivesRun (r.run ++ [b]) (r.take b).1 := by
      simp only [take, hstep]
      exact givesRun_singleton _ _ _ _
    exact .inr hgives.of_append
  | reject next => exact .inr (givesRun_singleton _ _ _ _)

/-- A step inside a token goes on the token or gives it out. -/
theorem Reads.grows_or_givesRun {input : Bytes} {given : List (Event m.Kind)} {r' : Reading m}
    (hbusy : m.isIdle r.state = false) (hrun : r.run ≠ []) (h : r.Reads input given r' rest) :
    (given = [] ∧ ∃ b, r'.run = r.run ++ [b]) ∨ GivesRun r.run given := by
  cases h with
  | extend hextend => exact .inl ⟨rfl, _, rfl⟩
  | join hjoins hrest => exact .inl ⟨rfl, _, rfl⟩
  | offer hb hjoins => exact (grows_or_givesRun_offer hbusy _).imp_left fun h => ⟨h.1, _, h.2⟩
  | lineEnd hend hextend =>
    refine .inr (GivesRun.append ?_ _)
    rw [beforeLineEnd, hbusy, if_neg Bool.false_ne_true, List.isEmpty_eq_false_iff.mpr hrun]
    split <;> exact givesRun_singleton _ _ _ _

/-- The octets of the token in progress stand in front in the next token that is given out. -/
theorem givesRun_events (hm : m.IsSteady) (hr : r.IsSound) (hrun : r.run ≠ []) (input : Bytes) :
    GivesRun r.run (r.events input) := by
  induction hlength : input.length using Nat.strongRecOn generalizing r input with
  | ind n ih =>
    have hbusy : m.isIdle r.state = false :=
      Bool.eq_false_iff.mpr fun hidle => hrun (hr.of_idle hidle)
    cases input with
    | nil =>
      show GivesRun r.run r.ending
      rw [ending, hbusy]
      exact givesRun_singleton _ _ _ _
    | cons b input =>
      obtain ⟨given, r', rest, hreads⟩ := r.exists_reads b input
      have hnext : Place.Next ⟨[], r, b :: input⟩ ⟨[] ++ given, r', rest⟩ := .reads hreads
      rw [hreads.events_eq]
      rcases hreads.grows_or_givesRun hbusy hrun with ⟨rfl, c, hmore⟩ | hgiven
      · have hlater := ih _ (hlength ▸ hnext.length_lt) (hreads.isSound hm hr) (by simp [hmore])
          rest rfl
        rw [hmore] at hlater
        exact hlater.of_append
      · exact hgiven.append _

namespace Place

variable {p : Place m} {given : List (Event m.Kind)}

theorem next_extend {b : UInt8} {continuation : Continuation}
    (h : r.continuation.extend b = some continuation) (rest : Bytes) :
    Next ⟨given, r, b :: rest⟩ ⟨given, ⟨r.state, r.run ++ [b], continuation⟩, rest⟩ := by
  have hnext : Next ⟨given, r, b :: rest⟩ ⟨given ++ [], _, rest⟩ := .reads (.extend h)
  rwa [List.append_nil] at hnext

theorem next_joined (hjoins : r.joinsLines = true) (hrest : atLineEnd rest = true) :
    Next ⟨given, r, Octet.backslash :: rest⟩
      ⟨given, ⟨r.state, r.run ++ [Octet.backslash], .backslash⟩, rest⟩ := by
  have hnext : Next ⟨given, r, Octet.backslash :: rest⟩ ⟨given ++ [], _, rest⟩ :=
    .reads (.join hjoins hrest)
  rwa [List.append_nil] at hnext

/-- Where a backslash joins two lines, the reading comes behind the line end in the state it is in,
and with the octets of both in its token. -/
theorem exists_reaches_joined (hjoins : p.reading.joinsLines = true) (hend : EndsLine ending rest)
    (hrest : p.rest = Octet.backslash :: (ending ++ rest)) :
    ∃ q : Place m, p.Reaches q ∧ q.given = p.given ∧ q.rest = rest
      ∧ q.reading.state = p.reading.state
      ∧ q.reading.run = p.reading.run ++ Octet.backslash :: ending := by
  obtain ⟨given, r, input⟩ := p
  obtain rfl : input = Octet.backslash :: (ending ++ rest) := hrest
  have hjoin : Reaches ⟨given, r, Octet.backslash :: (ending ++ rest)⟩ _ :=
    .single (next_joined hjoins hend.atLineEnd)
  obtain ⟨hending, -⟩ := hend
  simp only [Bytes.lineEnds, List.mem_cons, List.not_mem_nil, or_false] at hending
  rcases hending with rfl | rfl | rfl
  · exact ⟨_, hjoin.tail (next_extend rfl rest), rfl, rfl, rfl, by simp⟩
  · exact ⟨_, hjoin.tail (next_extend rfl rest), rfl, rfl, rfl, by simp⟩
  · -- the LF goes on the line continuation after the CR
    have hcr : Reaches _ _ := hjoin.tail (next_extend rfl (Octet.lineFeed :: rest))
    exact ⟨_, hcr.tail (next_extend rfl rest), rfl, rfl, rfl, by simp⟩

/-- A line continuation begins only where a backslash joins the lines. -/
theorem Reaches.joinsBehind_of_backslash (hc : m.continuesLines = true) {text : Bytes}
    (h : (start m (text ++ Octet.backslash :: rest)).Reaches p) (hrest : p.rest = rest)
    (hcontinuation : p.reading.continuation = .backslash) : m.JoinsBehind text := by
  obtain ⟨before, hbefore, hbeforeRest, hstate⟩ := exists_reaches_stateBefore m text
    Octet.backslash rest fun h => absurd h (by decide)
  by_cases hjoins : before.reading.joinsLines = true
  · rw [joinsLines, hstate, hc, Bool.true_and, Bool.and_eq_true, Bool.not_eq_true',
      Bool.not_eq_true'] at hjoins
    exact hjoins
  · -- a backslash that is offered begins no line continuation
    obtain ⟨given, r, input⟩ := before
    obtain rfl : input = Octet.backslash :: rest := hbeforeRest
    have hoffer : r.Reads (Octet.backslash :: rest) _ _ _ :=
      .offer (not_or.mpr ⟨by decide, by decide⟩) fun h => hjoins h.2.1
    have heq := h.eq_of_length_eq (hbefore.tail (.reads hoffer)) (by rw [hrest])
    rw [heq] at hcontinuation
    exact absurd ((continuation_offer r Octet.backslash).symm.trans hcontinuation) (by decide)

/-- A reading in front of a line end goes on a line continuation only behind a backslash that joins
the lines. -/
theorem Reaches.joinsBehind (hm : m.IsSteady) (hc : m.continuesLines = true) {front : Bytes}
    {b : UInt8} (hlast : b = Octet.lineFeed → front.getLast? ≠ some Octet.carriageReturn)
    (h : (start m (front ++ b :: rest)).Reaches p) (hrest : p.rest = b :: rest)
    {next : Continuation} (hextend : p.reading.continuation.extend b = some next) :
    ∃ text, front = text ++ [Octet.backslash] ∧ m.JoinsBehind text := by
  have hsource : Event.source p.given ++ p.reading.run = front :=
    Reaches.source_eq hm (hrest ▸ h)
  obtain ⟨-, hback, hreturn⟩ := h.kept (runsKeep_joins m) (runsKeep_joins m).nil
  cases hcontinuation : p.reading.continuation with
  | none =>
    rw [hcontinuation] at hextend
    exact absurd hextend (by simp [Continuation.extend])
  | carriageReturn =>
    -- an LF that goes on a line continuation stands behind its CR
    obtain ⟨x, hx⟩ := hreturn hcontinuation
    have hlf : b = Octet.lineFeed := by
      rw [hcontinuation, Continuation.extend] at hextend
      split at hextend
      · assumption
      · exact absurd hextend (by simp)
    exact absurd (by simp [← hsource, ← hx]) (hlast hlf)
  | backslash =>
    obtain ⟨x, hx⟩ := hback hcontinuation
    have hfront : front = Event.source p.given ++ x ++ [Octet.backslash] := by
      rw [← hsource, ← hx, List.append_assoc]
    rw [hfront, List.append_assoc _ [_]] at h
    exact ⟨_, hfront, h.joinsBehind_of_backslash hc hrest hcontinuation⟩

end Place

end Reading

namespace Machine

open Reading (Place EndsLine)

variable {buffers : List Bytes} {front ending rest : Bytes}

/-- The place of a backslash that joins two lines. -/
theorem exists_reaches_joinsLines (hc : m.continuesLines = true) (hjoins : m.JoinsBehind front)
    (rest : Bytes) :
    ∃ p : Place m, (Place.start m (front ++ Octet.backslash :: rest)).Reaches p
      ∧ p.rest = Octet.backslash :: rest ∧ p.reading.joinsLines = true
      ∧ p.reading.state = m.stateBefore front Octet.backslash := by
  obtain ⟨p, hreach, hrest, hstate⟩ := Place.exists_reaches_stateBefore m front
    Octet.backslash rest fun h => absurd h (by decide)
  refine ⟨p, hreach, hrest, ?_, hstate⟩
  rw [Reading.joinsLines, hstate, hc, hjoins.1, hjoins.2]
  rfl

/-- Lines that are joined have no line end between them. -/
theorem source_ne_of_joinsBehind (hm : m.IsSteady) (hc : m.continuesLines = true)
    (hinput : buffers.flatten = front ++ Octet.backslash :: (ending ++ rest))
    (hend : EndsLine ending rest) (hjoins : m.JoinsBehind front)
    {before after : List (Event m.Kind)} {text : Bytes}
    (h : m.events buffers = before ++ .newline text :: after) :
    Event.source before ≠ front ++ [Octet.backslash] := by
  intro hsource
  obtain ⟨p, hreach, hrest, hjoin, -⟩ := exists_reaches_joinsLines hc hjoins (ending ++ rest)
  obtain ⟨q, later, hreach', ⟨hrest', hend', hextend⟩, -, hinput', -⟩ :=
    exists_reaches_of_newline hm h
  rw [hinput, hsource, List.append_assoc] at hinput'
  have htext : ending ++ rest = text ++ later :=
    (List.cons.inj (List.append_cancel_left hinput')).2
  -- the reading of the line end is in the middle of a line continuation
  obtain ⟨given, r, input⟩ := p
  obtain rfl : input = Octet.backslash :: (ending ++ rest) := hrest
  rw [hinput] at hreach'
  have heq := hreach'.eq_of_length_eq (hreach.tail (Place.next_joined hjoin hend.atLineEnd))
    (by rw [hrest', ← htext])
  obtain ⟨b, tail, rfl⟩ := hend'.exists_eq_cons
  have hnone := hextend b rfl
  rw [heq] at hnone
  exact Continuation.extend_backslash_ne_none
    (Bytes.eq_or_eq_of_mem_lineEnds hend'.1 List.mem_cons_self) hnone

/-- Lines that are joined are so within one token. -/
theorem exists_token_of_joinsBehind (hm : m.IsSteady) (hc : m.continuesLines = true)
    (hinput : buffers.flatten = front ++ Octet.backslash :: (ending ++ rest))
    (hend : EndsLine ending rest) (hjoins : m.JoinsBehind front) :
    ∃ before kind opening more fragment after,
      Event.merged (m.events buffers)
          = before ++ .token kind (opening ++ Octet.backslash :: (ending ++ more)) fragment :: after
        ∧ Event.source before ++ opening = front := by
  obtain ⟨p, hreach, hrest, hjoin, -⟩ := exists_reaches_joinsLines hc hjoins (ending ++ rest)
  obtain ⟨q, hlater, hgiven, hq, -, hrun⟩ := Place.exists_reaches_joined hjoin hend hrest
  have hsource : Event.source p.given ++ p.reading.run = front :=
    Place.Reaches.source_eq hm (hrest ▸ hreach)
  have hreach' := Relation.ReflTransGen.trans hreach hlater
  have hsound := Place.Reaches.isSound hm (Place.isSound_start m _) hreach'
  obtain ⟨kind, more, fragment, after, hevents⟩ :=
    Reading.givesRun_events hm hsound (by simp [hrun]) q.rest
  have hall := Place.Reaches.events_eq hreach'
  rw [hevents, hgiven, hrun] at hall
  refine ⟨p.given, kind, p.reading.run, more, fragment, after, ?_, hsource⟩
  rw [m.merged_events hm, hinput]
  refine hall.trans ?_
  simp

/-- Lines that are joined leave the machine in the state it is in. -/
theorem stateBefore_of_joinsBehind (hc : m.continuesLines = true) (hend : EndsLine ending rest)
    (hjoins : m.JoinsBehind front) {b : UInt8} (hb : rest.head? = some b) :
    m.stateBefore (front ++ Octet.backslash :: ending) b
      = m.stateBefore front Octet.backslash := by
  obtain ⟨p, hreach, hrest, hjoin, hstate⟩ := exists_reaches_joinsLines hc hjoins (ending ++ rest)
  obtain ⟨q, hlater, -, hq, hqstate, -⟩ := Place.exists_reaches_joined hjoin hend hrest
  have hreach' : Place.Reaches _ q := Relation.ReflTransGen.trans hreach hlater
  obtain ⟨tail, rfl⟩ := List.head?_eq_some_iff.mp hb
  rw [← hstate, ← hqstate]
  refine (Place.Reaches.state_eq ?_ hq ?_).symm
  · simpa using hreach'
  · intro hlf
    have hne := hend.getLast?_ne (front ++ [Octet.backslash]) (by rw [hb, hlf])
    simpa using hne

/-- Every other line end is reported, once. -/
theorem existsUnique_newline (hm : m.IsSteady) (hc : m.continuesLines = true)
    (hinput : buffers.flatten = front ++ (ending ++ rest))
    (hend : Bytes.HasLineEnd front ending rest)
    (hjoins : ∀ text, front = text ++ [Octet.backslash] → ¬m.JoinsBehind text) :
    ∃! before, ∃ after, m.events buffers = before ++ .newline ending :: after
      ∧ Event.source before = front := by
  obtain ⟨b, tail, rfl⟩ := hend.1.exists_eq_cons
  have hlast : b = Octet.lineFeed → front.getLast? ≠ some Octet.carriageReturn := fun hb =>
    hend.2 (hend.1.eq_lineFeed hb)
  obtain ⟨p, hreach, hrest, -⟩ := Place.exists_reaches_stateBefore m front b (tail ++ rest) hlast
  have hextend : p.reading.continuation.extend b = none := by
    cases hextend : p.reading.continuation.extend b with
    | none => rfl
    | some next =>
      obtain ⟨text, htext, hjoin⟩ :=
        Place.Reaches.joinsBehind hm hc hlast hreach hrest hextend
      exact absurd hjoin (hjoins text htext)
  have hline : p.IsAtLineEnd (b :: tail) rest := ⟨hrest, hend.1, by simpa using hextend⟩
  have hall := Place.Reaches.events_eq (Relation.ReflTransGen.tail hreach hline.next)
  have hmerged : Event.mergedAfter none (m.events buffers)
      = (p.given ++ p.reading.beforeLineEnd.1)
        ++ .newline (b :: tail) :: (p.reading.lineEnd (b :: tail)).2.events rest := by
    rw [← Event.merged, m.merged_events hm, hinput]
    refine hall.trans ?_
    simp [Reading.lineEnd]
  obtain ⟨before, after, hevents, hbefore⟩ := Event.exists_of_mergedAfter_newline hmerged
  have hsource : Event.source before = front := by
    rw [← Event.merged_source before, Event.merged, hbefore]
    exact Place.Reaches.source_beforeLineEnd hm (hrest ▸ hreach)
  refine ⟨before, ⟨after, hevents, hsource⟩, ?_⟩
  rintro before' ⟨after', hevents', hsource'⟩
  exact Event.eq_of_source_eq (by simp) (by simp) (hevents'.symm.trans hevents)
    (hsource'.trans hsource.symm)

end Machine

end MarkupFeed
