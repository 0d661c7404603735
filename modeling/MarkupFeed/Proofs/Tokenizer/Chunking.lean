import MarkupFeed.Proofs.Tokenizer.Scan
import Mathlib.Tactic.Set

/-!
# Correctness of a tokenizer fed in buffers

A tokenizer fed in buffers makes of its input what a reading of the whole input makes of it.

The proof is a simulation. `Scan.Follows` ties a tokenizer in the middle of a buffer to a reading:
what merging has made of the reports so far is what the reading has given out, and the open run of
fragments together with the piece that is not yet reported are the octets of the token the reading
is in. Every operation of a scan keeps the two together (`follows_close`, `follows_lineEnd`,
`follows_offer`), hence one octet does (`leads_advance`), hence a buffer does (`finished_run`). A
held octet is one the reading has not read yet. The main statement is `Machine.merged_events`.
-/

namespace MarkupFeed

open Event

variable {m : Machine}

namespace Tokenizer

/-! ### The relation -/

/-- A tokenizer between two buffers, with the run of fragments that merging holds open, stands
where the reading stands. -/
structure Follows (t : Tokenizer m) (run : Option (m.Kind × Bytes)) (r : Reading m) : Prop where
  state_eq : t.state = r.state
  continuation_eq : t.continuation = r.continuation
  run_eq : openText run = r.run
  /-- Between tokens nothing is open. -/
  of_idle : m.isIdle t.state = true → run = none
  /-- The kind of the open run is the provisional kind of the token, and it has octets. -/
  of_open : ∀ kind text, run = some (kind, text) → kind = m.kind t.state ∧ text ≠ []
  /-- Lines are joined inside tokens only. -/
  of_continuation : t.continuation ≠ .none → m.isIdle t.state = false

namespace Scan

/-- What merging makes of the reports of a scan so far, after an open run. -/
def settled (s : Scan m) (run : Option (m.Kind × Bytes)) :
    List (Event m.Kind) × Option (m.Kind × Bytes) :=
  settle run (Report.events s.found.reverse)

theorem settled_of_found {s s' : Scan m} {report : Report m.Kind}
    (h : s'.found = report :: s.found) (run : Option (m.Kind × Bytes)) :
    s'.settled run
      = ((s.settled run).1 ++ (mergeOne (s.settled run).2 report.event).1,
          (mergeOne (s.settled run).2 report.event).2) := by
  rw [settled, h, Report.events, List.reverse_cons, List.map_append]
  exact settle_concat _ _ _

/-- A tokenizer in the middle of a buffer stands where the reading stands, which has given out the
events `done` since the buffer began; `run` was open then. -/
structure Follows (s : Scan m) (run : Option (m.Kind × Bytes)) (done : List (Event m.Kind))
    (r : Reading m) : Prop where
  state_eq : s.state = r.state
  continuation_eq : s.continuation = r.continuation
  done_eq : (s.settled run).1 = done
  run_eq : openText (s.settled run).2 ++ s.piece.reverse = r.run
  /-- Between tokens nothing is open and nothing unreported. -/
  of_idle : m.isIdle s.state = true → s.piece = [] ∧ (s.settled run).2 = none
  /-- When all octets are reported, the open run has the provisional kind of the token. -/
  of_open : ∀ kind text, (s.settled run).2 = some (kind, text) →
    (s.piece = [] → kind = m.kind s.state) ∧ text ≠ []
  of_continuation : s.continuation ≠ .none → m.isIdle s.state = false

variable {s : Scan m} {run : Option (m.Kind × Bytes)} {done : List (Event m.Kind)} {r : Reading m}

/-- What a scan holds back, and what it is to skip, say nothing about what it has read. -/
theorem Follows.frame (h : s.Follows run done r) (held : Option UInt8) (skip : Nat) :
    ({ s with held, skip } : Scan m).Follows run done r :=
  ⟨h.state_eq, h.continuation_eq, h.done_eq, h.run_eq, h.of_idle, h.of_open, h.of_continuation⟩

/-! ### Operations of a scan -/

/-- Reporting the current piece as a fragment changes nothing that can be seen after merging. -/
theorem follows_interrupt (h : s.Follows run done r) :
    s.interrupt.Follows run done r ∧ s.interrupt.piece = [] := by
  unfold interrupt
  split
  · next hc =>
    refine ⟨h, ?_⟩
    rcases Bool.or_eq_true _ _ ▸ hc with hempty | hidle
    · exact List.isEmpty_iff.1 hempty
    · exact (h.of_idle hidle).1
  · next hc =>
    rw [Bool.not_eq_true, Bool.or_eq_false_iff] at hc
    have hpiece : s.piece ≠ [] := fun hnil => by simp [hnil] at hc
    have hset : (s.emit (m.kind s.state) true).settled run
        = ((s.settled run).1,
            some (m.kind s.state, openText (s.settled run).2 ++ s.piece.reverse)) := by
      rw [settled_of_found (s := s) rfl]
      simp [mergeOne]
    refine ⟨⟨h.state_eq, h.continuation_eq, ?_, ?_, ?_, ?_, h.of_continuation⟩, rfl⟩
    · rw [hset, h.done_eq]
    · rw [hset]
      simpa [emit, openText] using h.run_eq
    · intro hidle
      exact absurd hidle (by simp [emit, hc.2])
    · intro kind text heq
      rw [hset] at heq
      simp only [Option.some.injEq, Prod.mk.injEq] at heq
      obtain ⟨rfl, rfl⟩ := heq
      exact ⟨fun _ => rfl, by simp [hpiece]⟩

/-- Reporting the current piece as the last one of a token. -/
theorem follows_emit {octets : Bytes} (kind : m.Kind) (hdone : (s.settled run).1 = done)
    (hrun : openText (s.settled run).2 ++ s.piece.reverse = octets)
    (hc : s.continuation = .none) :
    (s.emit kind false).Follows run (done ++ [.token kind octets false]) ⟨s.state, [], .none⟩ := by
  have hset : (s.emit kind false).settled run = (done ++ [.token kind octets false], none) := by
    rw [settled_of_found (s := s) rfl, hdone, ← hrun]
    rfl
  refine ⟨rfl, hc, ?_, ?_, ?_, ?_, fun hne => absurd hc hne⟩
  · rw [hset]
  · rw [hset]
    rfl
  · exact fun _ => ⟨rfl, by rw [hset]⟩
  · intro kind text heq
    rw [hset] at heq
    exact absurd heq (by simp)

/-- Closing the token in progress. -/
theorem follows_close {octets : Bytes} (hdone : (s.settled run).1 = done)
    (hrun : openText (s.settled run).2 ++ s.piece.reverse = octets)
    (hc : s.continuation = .none) :
    s.close.Follows run (done ++ [.token (m.finish s.state).1 octets false])
      ⟨(m.finish s.state).2, [], .none⟩ :=
  follows_emit (s := { s with state := (m.finish s.state).2 }) _ hdone hrun hc

/-- Adding an octet to the piece, with the machine inside a token. -/
theorem follows_keep {next : m.State} (h : s.Follows run done r) (hbusy : m.isIdle next = false)
    (continuation : Continuation) (b : UInt8) :
    ({ s with state := next, continuation, piece := b :: s.piece } : Scan m).Follows run done
      ⟨next, r.run ++ [b], continuation⟩ := by
  refine ⟨rfl, rfl, h.done_eq, ?_, ?_, ?_, fun _ => hbusy⟩
  · show openText (s.settled run).2 ++ (b :: s.piece).reverse = _
    rw [List.reverse_cons, ← List.append_assoc, h.run_eq]
  · exact fun hidle => absurd hidle (by simp [hbusy])
  · exact fun kind text heq => ⟨fun hnil => absurd hnil (by simp), (h.of_open kind text heq).2⟩

/-- Taking an octet that the machine does not reject, or that it refuses between tokens. -/
theorem follows_take (hm : m.IsSteady) (h : s.Follows run done r) (hc : s.continuation = .none)
    (b : UInt8) (hr : ∀ next, m.step s.state b = .reject next → m.isIdle s.state = true) :
    (s.take b).Follows run (done ++ (r.take b).1) (r.take b).2 := by
  cases hstep : m.step s.state b with
  | shift next =>
    have hkept := follows_keep h (hm.busy hstep) s.continuation b
    rw [hc] at hkept
    simp only [Scan.take, Reading.take, ← h.state_eq, hstep, List.append_nil, hc]
    exact hkept
  | accept next =>
    have hrun : openText (s.settled run).2 ++ (b :: s.piece).reverse = r.run ++ [b] := by
      rw [List.reverse_cons, ← List.append_assoc, h.run_eq]
    simp only [Scan.take, Reading.take, ← h.state_eq, hstep]
    exact follows_close (s := { s with state := next, piece := b :: s.piece }) h.done_eq hrun hc
  | reject next =>
    have hnone : (s.settled run).2 = none := (h.of_idle (hr next hstep)).2
    simp only [Scan.take, Reading.take, ← h.state_eq, hstep]
    refine follows_emit (s := { s with
      state := (m.finish next).2, first := s.first + s.piece.length, piece := [b] })
      _ h.done_eq ?_ hc
    show openText (s.settled run).2 ++ [b] = [b]
    rw [hnone]
    rfl

/-- Offering an octet. One that belongs to the next token closes the token before it. -/
theorem follows_offer (hm : m.IsSteady) (h : s.Follows run done r) (hc : s.continuation = .none)
    (b : UInt8) : (s.offer b).Follows run (done ++ (r.offer b).1) (r.offer b).2 := by
  by_cases hreject : m.isIdle s.state = false ∧ ∃ next, m.step s.state b = .reject next
  · -- the octet closes the token in progress, and is taken between tokens
    obtain ⟨hbusy, next, hstep⟩ := hreject
    have hidle : m.isIdle (m.finish next).2 = true := m.isIdle_finish next
    have hclosed := follows_close (s := { s with state := next }) h.done_eq h.run_eq hc
    have htaken := follows_take hm hclosed hc b fun _ _ => hidle
    simp only [Scan.offer, Reading.offer, ← h.state_eq, hbusy, hstep]
    rw [List.append_assoc] at htaken
    exact htaken
  · have hr : ∀ next, m.step s.state b = .reject next → m.isIdle s.state = true := by
      intro next hstep
      exact eq_true_of_ne_false fun hbusy => hreject ⟨hbusy, next, hstep⟩
    have hs : s.offer b = s.take b := by
      unfold Scan.offer
      split
      · next next hbusy hstep => exact absurd ⟨hbusy, next, hstep⟩ hreject
      · rfl
    have hr' : r.offer b = r.take b := by
      unfold Reading.offer
      split
      · next next hbusy hstep => exact absurd ⟨h.state_eq ▸ hbusy, next, h.state_eq ▸ hstep⟩ hreject
      · rfl
    rw [hs, hr']
    exact follows_take hm h hc b hr

/-- After a piece was reported, what a line end cuts off is the octets of the token on this line. -/
theorem interrupted_settled (h : s.Follows run done r) (hpiece : s.piece = []) :
    interrupted (s.settled run).2
      = if r.run.isEmpty then [] else [.token (m.kind r.state) r.run true] := by
  have hrun := h.run_eq
  rw [hpiece, List.reverse_nil, List.append_nil] at hrun
  rw [← hrun, ← h.state_eq]
  cases hopen : (s.settled run).2 with
  | none => rfl
  | some open_ =>
    obtain ⟨kind, text⟩ := open_
    obtain ⟨hkind, htext⟩ := h.of_open kind text hopen
    simp [interrupted, openText, hkind hpiece, htext]

/-- Reporting a line end when no piece is left. -/
theorem follows_newline (hdone : (s.settled run).1 = done) (hc : s.continuation = .none)
    (text : Bytes) :
    (s.newline text).Follows run (done ++ (interrupted (s.settled run).2 ++ [.newline text]))
      ⟨m.newline s.state, [], .none⟩ := by
  have hset : (s.newline text).settled run
      = (done ++ (interrupted (s.settled run).2 ++ [.newline text]), none) := by
    rw [settled_of_found (s := s) rfl, hdone]
    split <;> rfl
  refine ⟨rfl, hc, ?_, ?_, ?_, ?_, fun hne => absurd hc hne⟩
  · rw [hset]
  · rw [hset]
    rfl
  · exact fun _ => ⟨rfl, by rw [hset]⟩
  · intro kind text heq
    rw [hset] at heq
    exact absurd heq (by simp)

/-- Reading a line end. -/
theorem follows_lineEnd (h : s.Follows run done r) (hc : s.continuation = .none) (text : Bytes) :
    (s.endLine.newline text).Follows run (done ++ (r.lineEnd text).1) (r.lineEnd text).2 := by
  rw [Scan.endLine, Reading.lineEnd, Reading.beforeLineEnd, ← h.state_eq]
  by_cases hidle : m.isIdle s.state = true
  · have hnl := follows_newline h.done_eq hc text
    rw [(h.of_idle hidle).2] at hnl
    simp only [hidle, ite_true]
    exact hnl
  · by_cases hspan : m.spansNewline s.state = true
    · -- the token outlives the line: what is left of it on this line becomes a fragment
      obtain ⟨hi, hpiece⟩ := follows_interrupt h
      have hstate : s.interrupt.state = s.state := hi.state_eq.trans h.state_eq.symm
      have hci : s.interrupt.continuation = .none :=
        hi.continuation_eq.trans (h.continuation_eq.symm.trans hc)
      have hnl := follows_newline hi.done_eq hci text
      rw [interrupted_settled hi hpiece, hstate, ← h.state_eq] at hnl
      simp only [hidle, hspan, ite_true]
      exact hnl
    · have hclosed := follows_close h.done_eq h.run_eq hc
      have hnl := follows_newline hclosed.done_eq hc text
      have hnone : (s.close.settled run).2 = none := (hclosed.of_idle (m.isIdle_finish _)).2
      rw [hnone, List.append_assoc] at hnl
      simp only [hidle, hspan]
      exact hnl

/-! ### One octet -/

/-- The scan stands in front of `rest`, and with it comes to the events `total`. -/
def Leads (s : Scan m) (run : Option (m.Kind × Bytes)) (total : List (Event m.Kind))
    (rest : Bytes) : Prop :=
  ∃ done r, s.Follows run done r ∧ done ++ r.events rest = total

/-- How the scan of an octet goes on: with the rest, with what follows the LF in front of the
rest, or, once more is known, with the octet itself. -/
def Next.Leads (next : Next m) (before : Scan m) (run : Option (m.Kind × Bytes))
    (total : List (Event m.Kind)) (b : UInt8) (ahead : Ahead) (rest : Bytes) : Prop :=
  match next with
  | .octet s => s.Leads run total rest ∧ s.held = before.held ∧ s.skip = before.skip
  | .afterLineFeed s =>
    ahead = .octet Octet.lineFeed
      ∧ (∃ tail, rest = Octet.lineFeed :: tail ∧ s.Leads run total tail)
      ∧ s.held = before.held ∧ s.skip = before.skip
  | .wait s =>
    ahead = .unknown ∧ s.Leads run total (b :: rest) ∧ s.held = some b ∧ s.skip = before.skip

section Advance

variable {total : List (Event m.Kind)} {b : UInt8} {ahead : Ahead} {rest : Bytes}

/-- A line end keeps scan and reading together. -/
theorem leads_lineEnd (h : s.Follows run done r) (hc : s.continuation = .none) (text : Bytes)
    (htotal : done ++ ((r.lineEnd text).1 ++ (r.lineEnd text).2.events rest) = total) :
    (s.endLine.newline text).Leads run total rest :=
  ⟨_, _, follows_lineEnd h hc text, by rw [List.append_assoc, htotal]⟩

/-- An octet without a meaning for lines keeps scan and reading together. -/
theorem leads_offer (hm : m.IsSteady) (h : s.Follows run done r) (hc : s.continuation = .none)
    (htotal : done ++ ((r.offer b).1 ++ (r.offer b).2.events rest) = total) :
    Next.Leads (.octet (s.offer b)) s run total b ahead rest :=
  ⟨⟨_, _, follows_offer hm h hc b, by rw [List.append_assoc, htotal]⟩, kept_offer s b⟩

/-- An octet that is held back is one the reading has not read yet. -/
theorem leads_wait (h : s.Follows run done r) (htotal : done ++ r.events (b :: rest) = total) :
    Next.Leads (.wait { s with held := some b }) s run total b .unknown rest :=
  ⟨rfl, ⟨done, r, h.frame (some b) s.skip, htotal⟩, rfl, rfl⟩

/-- Outside a line continuation, reading an octet keeps scan and reading together. -/
theorem leads_advance_none (hm : m.IsSteady) (h : s.Follows run done r)
    (hc : s.continuation = .none) (htotal : done ++ r.events (b :: rest) = total)
    (hfits : ahead.Fits rest) : (s.advance b ahead).Leads s run total b ahead rest := by
  have hrc : r.continuation = .none := h.continuation_eq ▸ hc
  have hrjoins : r.joinsLines = s.joinsLines := by rw [joinsLines, Reading.joinsLines, h.state_eq]
  have hmoves := moves_advance hc b hfits
  generalize s.advance b ahead = next at hmoves
  cases hmoves with
  | lineEnd hb hcrlf =>
    rw [Reading.events_cons hrc hcrlf, Reading.advance, if_pos hb] at htotal
    exact ⟨leads_lineEnd h hc _ htotal, kept_lineEnd s _⟩
  | crlf tail =>
    rw [Reading.events_crlf hrc] at htotal
    exact ⟨rfl, ⟨tail, rfl, leads_lineEnd h hc _ htotal⟩, kept_lineEnd s _⟩
  | wait => exact leads_wait h htotal
  | join hjoins hrest =>
    rw [Reading.events_cons hrc fun hb => absurd hb.1 (by decide), Reading.advance,
      if_neg (by decide), if_pos ⟨rfl, hrjoins.trans hjoins, hrest⟩, List.nil_append,
      ← h.state_eq] at htotal
    have hbusy : m.isIdle s.state = false := by
      simp only [joinsLines, Bool.and_eq_true, Bool.not_eq_true'] at hjoins
      exact hjoins.1.2
    exact ⟨⟨done, _, follows_keep h hbusy .backslash _, htotal⟩, rfl, rfl⟩
  | offer hb hjoins =>
    rw [Reading.events_cons hrc fun hcr => hb (.inr hcr.1), Reading.advance, if_neg hb,
      if_neg (by rwa [hrjoins])] at htotal
    exact leads_offer hm h hc htotal

/-- Reading an octet keeps scan and reading together. -/
theorem leads_advance (hm : m.IsSteady) (h : s.Leads run total (b :: rest))
    (hfits : ahead.Fits rest) : (s.advance b ahead).Leads s run total b ahead rest := by
  obtain ⟨done, r, h, htotal⟩ := h
  cases hext : s.continuation.extend b with
  | some continuation =>
    have hbusy : m.isIdle s.state = false :=
      h.of_continuation fun hnone => by simp [hnone, Continuation.extend] at hext
    rw [Reading.events_of_extend (h.continuation_eq ▸ hext)] at htotal
    rw [advance, hext]
    rw [← h.state_eq] at htotal
    exact ⟨⟨done, _, follows_keep h hbusy continuation b, htotal⟩, rfl, rfl⟩
  | none =>
    -- the continuation is over: scan and reading forget it together
    have hadv : s.advance b ahead = { s with continuation := .none }.advance b ahead := by
      rw [advance, advance, hext]
      rfl
    have hforget : { s with continuation := .none }.Follows run done ⟨r.state, r.run, .none⟩ :=
      ⟨h.state_eq, rfl, h.done_eq, h.run_eq, h.of_idle, h.of_open, fun hne => absurd rfl hne⟩
    rw [Reading.events_of_not_extend (h.continuation_eq ▸ hext)] at htotal
    rw [hadv]
    exact leads_advance_none hm hforget rfl htotal hfits

end Advance

/-! ### One buffer -/

theorem Leads.interrupt {total : List (Event m.Kind)} {rest : Bytes} (h : s.Leads run total rest) :
    s.interrupt.Leads run total rest ∧ s.interrupt.piece = [] := by
  obtain ⟨done, r, h, htotal⟩ := h
  obtain ⟨hi, hpiece⟩ := follows_interrupt h
  exact ⟨⟨done, r, hi, htotal⟩, hpiece⟩

/-- How a scan stands at the end of its buffer. What the reading has not read yet is a held octet
and what follows the buffer, the first octet of which may have been read too. -/
structure Finished (s : Scan m) (run : Option (m.Kind × Bytes)) (total : List (Event m.Kind))
    (after : Ahead) (later : Bytes) : Prop where
  leads : s.Leads run total (s.held.toList ++ later.drop s.skip)
  piece_eq : s.piece = []
  held_eq : after ≠ .unknown → s.held = none
  skip_eq : s.skip = 0 ∨ after = .octet Octet.lineFeed ∧ s.skip = 1

/-- Reading the rest of a buffer keeps scan and reading together. -/
theorem finished_run (hm : m.IsSteady) {total : List (Event m.Kind)} {after : Ahead}
    {buffer later : Bytes} (hfits : after.Fits later) (h : s.Leads run total (buffer ++ later))
    (hheld : s.held = none) (hskip : s.skip = 0) :
    (Scan.run after buffer s).Finished run total after later := by
  have hkept : IsKept (fun s rest => s.Leads run total rest)
      (fun s rest => s.Leads run total rest ∧ s.piece = []) :=
    { advance := fun {s b ahead rest} h hfits => by
        have hnext := leads_advance hm h hfits
        cases hadv : s.advance b ahead <;> exact hadv ▸ hnext
      skip := fun ⟨done, r, hf, htotal⟩ => ⟨done, r, hf.frame _ 1, htotal⟩
      interrupt := Leads.interrupt }
  obtain ⟨⟨hleads, hpiece⟩, hheld, hskip⟩ := ends_run hkept hfits h hheld hskip
  exact ⟨hleads, hpiece, hheld, hskip⟩

end Scan

/-! ### A sequence of buffers -/

variable {t : Tokenizer m} {run : Option (m.Kind × Bytes)} {r : Reading m}

/-- A scan that begins stands where the tokenizer stands. -/
theorem Follows.scan (h : t.Follows run r) (length first : Nat) :
    ({ t with length, first } : Scan m).Follows run [] r where
  state_eq := h.state_eq
  continuation_eq := h.continuation_eq
  done_eq := rfl
  run_eq := (List.append_nil _).trans h.run_eq
  of_idle hidle := ⟨rfl, h.of_idle hidle⟩
  of_open kind text heq := ⟨fun _ => (h.of_open kind text heq).1, (h.of_open kind text heq).2⟩
  of_continuation := h.of_continuation

/-- A tokenizer stands where a scan stands that has reported all octets. -/
theorem Scan.Follows.toTokenizer {s : Scan m} {done : List (Event m.Kind)}
    (h : s.Follows run done r) (hpiece : s.piece = []) :
    s.toTokenizer.Follows (s.settled run).2 r where
  state_eq := h.state_eq
  continuation_eq := h.continuation_eq
  run_eq := by
    have hrun := h.run_eq
    rwa [hpiece, List.reverse_nil, List.append_nil] at hrun
  of_idle hidle := (h.of_idle hidle).2
  of_open kind text heq := ⟨(h.of_open kind text heq).1 hpiece, (h.of_open kind text heq).2⟩
  of_continuation := h.of_continuation

/-- The tokenizer stands in front of `rest`, and with it comes to the events `total`. -/
def Leads (t : Tokenizer m) (run : Option (m.Kind × Bytes)) (total : List (Event m.Kind))
    (rest : Bytes) : Prop :=
  ∃ r, t.Follows run r ∧ r.events (t.held.toList ++ rest) = total

theorem Scan.Finished.toTokenizer {s : Scan m} {total : List (Event m.Kind)} {after : Ahead}
    {later : Bytes} (h : s.Finished run total after later) :
    ∃ more, total = (s.settled run).1 ++ more
      ∧ s.toTokenizer.Leads (s.settled run).2 more (later.drop s.skip) := by
  obtain ⟨done, r, hf, htotal⟩ := h.leads
  exact ⟨_, by rw [hf.done_eq, htotal], r, hf.toTokenizer h.piece_eq, rfl⟩

/-- The held octet is a buffer of its own. -/
theorem Leads.scanHeld {total : List (Event m.Kind)} {rest : Bytes} {b : UInt8}
    (h : t.Leads run total rest) (hheld : t.held = some b) :
    ({ t with held := none, length := 1, first := 0 } : Scan m).Leads run total (b :: rest) := by
  obtain ⟨r, hf, htotal⟩ := h
  have hf' : ({ t with held := none } : Tokenizer m).Follows run r :=
    ⟨hf.state_eq, hf.continuation_eq, hf.run_eq, hf.of_idle, hf.of_open, hf.of_continuation⟩
  rw [hheld] at htotal
  exact ⟨[], r, hf'.scan 1 0, htotal⟩

/-- Reading the held octet. -/
theorem Leads.release (hm : m.IsSteady) {total : List (Event m.Kind)} {after : Ahead}
    {rest : Bytes} (h : t.Leads run total rest) (hfits : after.Fits rest) :
    (t.release after).Finished run total after rest := by
  unfold Tokenizer.release
  cases hheld : t.held with
  | none =>
    obtain ⟨r, hf, htotal⟩ := h
    rw [hheld] at htotal
    refine ⟨⟨[], r, hf.scan 0 0, ?_⟩, rfl, fun _ => hheld, .inl rfl⟩
    show r.events (t.held.toList ++ rest) = total
    rw [hheld, htotal]
  | some b => exact Scan.finished_run hm hfits (h.scanHeld hheld) rfl rfl

/-- The scan of a buffer, once the held octet is read, stands where the reading stands. -/
theorem Leads.beginScan (hm : m.IsSteady) {total : List (Event m.Kind)} {b : UInt8}
    {tail rest : Bytes} (h : t.Leads run total (b :: tail ++ rest)) (length : Nat) :
    ∃ more, total = ((t.release (.octet b)).settled run).1 ++ more
      ∧ ({ (t.release (.octet b)).toTokenizer with
            length, first := (t.release (.octet b)).skip } : Scan m).Leads
          ((t.release (.octet b)).settled run).2 more
          ((b :: tail).drop (t.release (.octet b)).skip ++ rest)
      ∧ (t.release (.octet b)).held = none ∧ (t.release (.octet b)).skip ≤ 1 := by
  have hfits : (Ahead.octet b).Fits (b :: tail ++ rest) := rfl
  have hbefore := h.release hm hfits
  have hheld : (t.release (.octet b)).held = none := hbefore.held_eq (by simp)
  obtain ⟨more, htotal, r, hf, hmore⟩ := hbefore.toTokenizer
  rw [hheld] at hmore
  refine ⟨more, htotal, ⟨[], r, hf.scan _ _, ?_⟩, hheld, ?_⟩
  · rw [← hmore]
    rcases hbefore.skip_eq with hskip | ⟨-, hskip⟩ <;> rw [hskip] <;> rfl
  · rcases hbefore.skip_eq with hskip | ⟨-, hskip⟩ <;> omega

/-- Reading a buffer gives out the first events of what the tokenizer comes to. -/
theorem Leads.feed (hm : m.IsSteady) {total : List (Event m.Kind)} {buffer rest : Bytes}
    (h : t.Leads run total (buffer ++ rest)) :
    ∃ more, total = (settle run (Report.events (t.feed buffer).2)).1 ++ more
      ∧ (t.feed buffer).1.Leads (settle run (Report.events (t.feed buffer).2)).2 more rest := by
  cases buffer with
  | nil => exact ⟨total, rfl, h⟩
  | cons b tail =>
    obtain ⟨later, rfl, hlater, hheld, -⟩ := h.beginScan hm (b :: tail).length
    have hfits : Ahead.unknown.Fits rest := trivial
    have hscan := Scan.finished_run hm hfits hlater hheld rfl
    obtain ⟨more, rfl, hmore⟩ := hscan.toTokenizer
    have hskip := hscan.skip_eq.resolve_right fun hafter => by simp at hafter
    rw [hskip] at hmore
    have hreports : Report.events (t.feed (b :: tail)).2
        = Report.events (t.release (.octet b)).found.reverse
          ++ Report.events ((t.release (.octet b)).toTokenizer.scan (b :: tail)
              (t.release (.octet b)).skip .unknown).found.reverse :=
      List.map_append
    rw [hreports, settle_append]
    exact ⟨more, (List.append_assoc _ _ _).symm, hmore⟩

/-- At the end of the input nothing is left to come. -/
theorem Leads.flush (hm : m.IsSteady) {total : List (Event m.Kind)} (h : t.Leads run total []) :
    mergedAfter run (Report.events t.flush.2) = total := by
  have hfits : Ahead.over.Fits [] := rfl
  have hbefore := h.release hm hfits
  obtain ⟨more, rfl, r, hf, hmore⟩ := hbefore.toTokenizer
  set before := t.release .over with hbefore_def
  rw [hbefore.held_eq (by simp), List.drop_nil] at hmore
  have hending : r.ending
      = if m.isIdle before.state then []
        else [.token (m.finish before.state).1 (openText (before.settled run).2) false] := by
    rw [Reading.ending, ← hf.state_eq, ← hf.run_eq]
  have hreports : Report.events t.flush.2
      = Report.events before.found.reverse
        ++ if m.isIdle before.state then [] else [.token (m.finish before.state).1 [] false] := by
    unfold Tokenizer.flush
    by_cases hidle : m.isIdle before.state = true
    · simp [← hbefore_def, hidle, Report.events]
    · simp [← hbefore_def, hidle, Report.events]
  rw [hreports, mergedAfter_append, ← hmore]
  show _ = (before.settled run).1 ++ r.ending
  rw [hending]
  by_cases hidle : m.isIdle before.state = true
  · have hnone : (settle run (Report.events before.found.reverse)).2 = none := hf.of_idle hidle
    rw [if_pos hidle, if_pos hidle, hnone]
    rfl
  · rw [if_neg hidle, if_neg hidle]
    simp [mergedAfter, interrupted, Scan.settled, openText]

/-- Feeding more buffers after the first is going on from there. -/
theorem finish_cons (t : Tokenizer m) (buffer : Bytes) (buffers : List Bytes) :
    (t.finish (buffer :: buffers)).2
      = (t.feed buffer).2 ++ ((t.feed buffer).1.finish buffers).2 := by
  simp [Tokenizer.finish, feedAll]

/-- The merged events of a tokenizer that is fed any buffers and then flushed are those of a
reading of all octets at once. -/
theorem Leads.finish (hm : m.IsSteady) {total : List (Event m.Kind)} {buffers : List Bytes}
    (h : t.Leads run total buffers.flatten) :
    mergedAfter run (Report.events (t.finish buffers).2) = total := by
  induction buffers generalizing t run total with
  | nil => exact h.flush hm
  | cons buffer buffers ih =>
    obtain ⟨more, rfl, hmore⟩ := h.feed hm
    rw [finish_cons, Report.events_append, mergedAfter_append]
    exact congrArg (_ ++ ·) (ih hmore)

/-- A fresh tokenizer stands where a reading begins. -/
theorem follows_fresh (m : Machine) : (fresh m).Follows none {} where
  state_eq := rfl
  continuation_eq := rfl
  run_eq := rfl
  of_idle _ := rfl
  of_open _ _ heq := absurd heq (by simp)
  of_continuation hne := absurd rfl hne

end Tokenizer

/-- What a machine makes of an input does not depend on the buffers the input comes in. -/
theorem Machine.merged_events (hm : m.IsSteady) (buffers : List Bytes) :
    Event.merged (m.events buffers) = Reading.events ({} : Reading m) buffers.flatten :=
  Tokenizer.Leads.finish hm ⟨{}, Tokenizer.follows_fresh m, rfl⟩

end MarkupFeed
