import MarkupFeed.Proofs.Tokenizer.Invariant

/-!
# Scans do not depend on what they found before

What a scan finds depends neither on where its buffer begins nor on what it has found before.

Two scans that are alike but for that (`Scan.Agrees`) stay alike whatever is done to both, one octet
(`Scan.agrees_advance`) or the rest of a buffer (`Scan.agrees_run`), and find the same events. In
particular a scan only ever adds to what it has found (`Scan.exists_events_advance`,
`Scan.exists_events_resume`).
-/

namespace MarkupFeed

variable {m : Machine} {past : List (Event m.Kind)}

namespace Tokenizer

namespace Scan

/-- The events a scan has found. -/
def events (s : Scan m) : List (Event m.Kind) := Report.events s.found.reverse

/-- Two scans that differ in their places and in what they have found only; the first has found the
events of the past, and then those of the second. -/
def Agrees (s s₀ : Scan m) (past : List (Event m.Kind)) : Prop :=
  ∃ length first found, s = { s₀ with length, first, found }
    ∧ Report.events found.reverse = past ++ s₀.events

variable {s s₀ : Scan m} {b : UInt8} {ahead : Ahead}

/-! ### Operations of a scan -/

theorem events_emit (s : Scan m) (kind : m.Kind) (fragment : Bool) :
    (s.emit kind fragment).events = s.events ++ [.token kind s.piece.reverse fragment] :=
  Report.events_reverse_cons _ _

theorem events_newline (s : Scan m) (text : Bytes) :
    (s.newline text).events = s.events ++ [.newline text] := by
  rw [events, newline, Report.events_reverse_cons]
  split <;> rfl

theorem exists_events_interrupt (s : Scan m) :
    ∃ pieces, s.interrupt.events = s.events ++ pieces
      ∧ ∀ event ∈ pieces, event.isFragment = true := by
  unfold interrupt
  split
  · exact ⟨[], (List.append_nil _).symm, List.forall_mem_nil _⟩
  · exact ⟨_, events_emit _ _ _, List.forall_mem_singleton.mpr rfl⟩

/-- A scan agrees with itself, as far as it has found nothing. -/
theorem agrees_self (s : Scan m) : s.Agrees { s with found := [] } s.events :=
  ⟨s.length, s.first, s.found, rfl, (List.append_nil _).symm⟩

/-- Scans that agree go on agreeing when the same is done to both. -/
theorem Agrees.set (h : s.Agrees s₀ past) (t : Tokenizer m) (piece : Bytes) (skip : Nat) :
    Agrees { s with toTokenizer := t, piece, skip } { s₀ with toTokenizer := t, piece, skip }
      past := by
  obtain ⟨length, first, found, rfl, hevents⟩ := h
  exact ⟨length, first, found, rfl, hevents⟩

theorem Agrees.skip (h : s.Agrees s₀ past) (skip : Nat) :
    Agrees { s with skip } { s₀ with skip } past := by
  obtain ⟨length, first, found, rfl, hevents⟩ := h
  exact ⟨length, first, found, rfl, hevents⟩

/-- Where a scan is in its buffer has no part in it. -/
theorem Agrees.place (h : s.Agrees s₀ past) (first first₀ : Nat) :
    Agrees { s with first } { s₀ with first := first₀ } past := by
  obtain ⟨length, _, found, rfl, hevents⟩ := h
  exact ⟨length, first, found, rfl, hevents⟩

theorem Agrees.events_eq (h : s.Agrees s₀ past) : s.events = past ++ s₀.events := by
  obtain ⟨length, first, found, rfl, hevents⟩ := h
  exact hevents

theorem Agrees.toTokenizer_eq (h : s.Agrees s₀ past) : s.toTokenizer = s₀.toTokenizer := by
  obtain ⟨length, first, found, rfl, -⟩ := h
  rfl

theorem Agrees.skip_eq (h : s.Agrees s₀ past) : s.skip = s₀.skip := by
  obtain ⟨length, first, found, rfl, -⟩ := h
  rfl

theorem agrees_emit (h : s.Agrees s₀ past) (kind : m.Kind) (fragment : Bool) :
    (s.emit kind fragment).Agrees (s₀.emit kind fragment) past := by
  obtain ⟨length, first, found, rfl, hevents⟩ := h
  refine ⟨_, _, _, rfl, ?_⟩
  rw [events_emit, Report.events_reverse_cons, hevents, List.append_assoc]

theorem agrees_newline (h : s.Agrees s₀ past) (text : Bytes) :
    (s.newline text).Agrees (s₀.newline text) past := by
  obtain ⟨length, first, found, rfl, hevents⟩ := h
  refine ⟨_, _, _, rfl, ?_⟩
  rw [events_newline, ← List.append_assoc, ← hevents]
  exact events_newline { s₀ with length, first, found } text

theorem agrees_interrupt (h : s.Agrees s₀ past) : s.interrupt.Agrees s₀.interrupt past := by
  have hemit := agrees_emit h (m.kind s₀.state) true
  obtain ⟨length, first, found, rfl, hevents⟩ := h
  unfold interrupt
  dsimp only
  split
  · exact ⟨length, first, found, rfl, hevents⟩
  · exact hemit

theorem agrees_take (h : s.Agrees s₀ past) (b : UInt8) : (s.take b).Agrees (s₀.take b) past := by
  have hset := h.set
  obtain ⟨length, first, found, rfl, hevents⟩ := h
  unfold take
  dsimp only
  split
  · exact hset { s₀.toTokenizer with state := _ } _ s₀.skip
  · exact agrees_emit (hset { s₀.toTokenizer with state := _ } (b :: s₀.piece) s₀.skip) _ false
  · next next _ =>
    have hrefused := hset { s₀.toTokenizer with state := (m.finish next).2 } [b] s₀.skip
    exact agrees_emit (hrefused.place _ _) _ false

theorem agrees_offer (h : s.Agrees s₀ past) (b : UInt8) :
    (s.offer b).Agrees (s₀.offer b) past := by
  have hset := h.set
  have htake := agrees_take h b
  obtain ⟨length, first, found, rfl, hevents⟩ := h
  unfold offer
  dsimp only
  split
  · next next _ _ =>
    exact agrees_take (agrees_emit
      (hset { s₀.toTokenizer with state := (m.finish next).2 } s₀.piece s₀.skip) _ false) b
  · exact htake

theorem agrees_endLine (h : s.Agrees s₀ past) : s.endLine.Agrees s₀.endLine past := by
  have hset := h.set { s₀.toTokenizer with state := (m.finish s₀.state).2 } s₀.piece s₀.skip
  have hinterrupt := agrees_interrupt h
  obtain ⟨length, first, found, rfl, hevents⟩ := h
  unfold endLine
  dsimp only
  split
  · exact ⟨length, first, found, rfl, hevents⟩
  · split
    · exact hinterrupt
    · exact agrees_emit hset _ false

/-- Two scans go on in the same way after an octet. -/
inductive Next.Agrees : Next m → Next m → List (Event m.Kind) → Prop
  | octet {s s₀ : Scan m} {past : List (Event m.Kind)} (h : s.Agrees s₀ past) :
      Agrees (.octet s) (.octet s₀) past
  | afterLineFeed {s s₀ : Scan m} {past : List (Event m.Kind)} (h : s.Agrees s₀ past) :
      Agrees (.afterLineFeed s) (.afterLineFeed s₀) past
  | wait {s s₀ : Scan m} {past : List (Event m.Kind)} (h : s.Agrees s₀ past) :
      Agrees (.wait s) (.wait s₀) past

theorem agrees_advance (h : s.Agrees s₀ past) (b : UInt8) (ahead : Ahead) :
    (s.advance b ahead).Agrees (s₀.advance b ahead) past := by
  have hset := h.set
  have hforget := hset { s₀.toTokenizer with continuation := .none } s₀.piece s₀.skip
  have hoffer := agrees_offer hforget b
  have hend := agrees_newline (agrees_endLine hforget)
  obtain ⟨length, first, found, rfl, hevents⟩ := h
  unfold advance joinsLines
  dsimp only
  split
  · exact .octet (hset { s₀.toTokenizer with continuation := _ } _ s₀.skip)
  · split
    · exact .octet (hend _)
    · split
      · split
        · exact .afterLineFeed (hend _)
        · split
          · exact .wait (hset { s₀.toTokenizer with continuation := .none, held := _ } _ s₀.skip)
          · exact .octet (hend _)
      · split
        · split
          · exact .octet (hset { s₀.toTokenizer with continuation := _ } _ s₀.skip)
          · split
            · exact .wait (hset { s₀.toTokenizer with continuation := .none, held := _ } _ s₀.skip)
            · exact .octet hoffer
        · exact .octet hoffer

theorem agrees_run (h : s.Agrees s₀ past) (after : Ahead) (rest : Bytes) :
    (Scan.run after rest s).Agrees (Scan.run after rest s₀) past := by
  induction rest using buffer_induction generalizing s s₀ with
  | nil => exact agrees_interrupt h
  | cons b rest ih ihTail =>
    have hnext := agrees_advance h b (rest.head?.elim after .octet)
    rw [run_cons, run_cons]
    generalize s.advance b (rest.head?.elim after .octet) = next,
      s₀.advance b (rest.head?.elim after .octet) = next₀ at hnext ⊢
    cases hnext with
    | octet h => exact ih h
    | wait h => exact agrees_interrupt h
    | afterLineFeed h =>
      -- the LF is read together with the CR
      cases rest with
      | nil => exact agrees_interrupt (h.skip 1)
      | cons x rest => exact ihTail h

theorem agrees_resume {next next₀ : Next m} (h : next.Agrees next₀ past) (after : Ahead)
    (rest : Bytes) : (next.resume after rest).Agrees (next₀.resume after rest) past := by
  cases h with
  | octet h => exact agrees_run h after rest
  | wait h => exact agrees_interrupt h
  | afterLineFeed h =>
    cases rest with
    | nil => exact agrees_interrupt (h.skip 1)
    | cons x rest => exact agrees_run h after rest

theorem Next.Agrees.scan {next next₀ : Next m} (h : next.Agrees next₀ past) :
    next.scan.Agrees next₀.scan past := by
  cases h with
  | octet h | wait h | afterLineFeed h => exact h

theorem exists_events_advance (s : Scan m) (b : UInt8) (ahead : Ahead) :
    ∃ new, (s.advance b ahead).scan.events = s.events ++ new :=
  ⟨_, (agrees_advance s.agrees_self b ahead).scan.events_eq⟩

theorem exists_events_resume (next : Next m) (after : Ahead) (rest : Bytes) :
    ∃ more, (next.resume after rest).events = next.scan.events ++ more := by
  have hself : ∃ next₀, next.Agrees next₀ next.scan.events := by
    cases next with
    | octet s => exact ⟨_, .octet s.agrees_self⟩
    | afterLineFeed s => exact ⟨_, .afterLineFeed s.agrees_self⟩
    | wait s => exact ⟨_, .wait s.agrees_self⟩
  obtain ⟨next₀, hself⟩ := hself
  exact ⟨_, (agrees_resume hself after rest).events_eq⟩

end Scan

end Tokenizer

end MarkupFeed
