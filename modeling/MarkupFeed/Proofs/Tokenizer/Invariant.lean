import MarkupFeed.Proofs.Tokenizer.Chunking

/-!
# Invariants of a tokenizer and its events

What holds of a tokenizer and of the events it has reported, fragments included.

Merging hides how a token was cut into pieces; what is said here is said of the pieces themselves.
`Machine.Upholds p` collects what is to be shown of a machine, one law for each thing a tokenizer
may do with it: `p` is said of its state, of the octets that are not reported yet and of all events
so far. The laws carry over to every operation of a scan, hence to a buffer (`Scan.upholds_run`), to
the calls `Tokenizer.feed` and `Tokenizer.flush`, and to an input in any buffers
(`Tokenizer.upholds_finish`). Where no event depends on those before it, `p` comes apart:
`Machine.Keeps p q` keeps `p` of the state and the octets, and `q` of whatever is reported
(`Machine.Keeps.forall_mem_events`).
-/

namespace MarkupFeed

/-- What a machine keeps to: `p` of its state, the piece of the token that is not reported yet, and
the events reported so far. -/
structure Machine.Upholds (m : Machine) (p : m.State → Bytes → List (Event m.Kind) → Prop) :
    Prop where
  /-- An octet goes on the token. -/
  shift : ∀ {s piece events b next}, p s piece events → m.step s b = .shift next →
    p next (piece ++ [b]) events
  /-- An octet completes the token. -/
  accept : ∀ {s piece events b next}, p s piece events → m.step s b = .accept next →
    p (m.finish next).2 [] (events ++ [.token (m.finish next).1 (piece ++ [b]) false])
  /-- An octet belongs to the next token. -/
  reject : ∀ {s piece events b next}, p s piece events → m.isIdle s = false →
    m.step s b = .reject next →
    p (m.finish next).2 [] (events ++ [.token (m.finish next).1 piece false])
  /-- An octet is refused between tokens. -/
  refuse : ∀ {s piece events b next}, p s piece events → m.isIdle s = true →
    m.step s b = .reject next →
    p (m.finish next).2 [] (events ++ [.token TokenKind.error [b] false])
  /-- A line or the input ends, and with it the token. -/
  close : ∀ {s piece events}, p s piece events → m.isIdle s = false →
    p (m.finish s).2 [] (events ++ [.token (m.finish s).1 piece false])
  /-- The piece is reported, and the token goes on. -/
  interrupt : ∀ {s piece events}, p s piece events → m.isIdle s = false → piece ≠ [] →
    p s [] (events ++ [.token (m.kind s) piece true])
  /-- Nothing is left of the piece. -/
  drop : ∀ {s piece events}, p s piece events → p s [] events
  newline : ∀ {s text events}, p s [] events → text ∈ Bytes.lineEnds →
    p (m.newline s) [] (events ++ [.newline text])
  /-- An octet of a line continuation. -/
  join : ∀ {s piece events} b, p s piece events → m.continuesLines = true →
    p s (piece ++ [b]) events

theorem Report.events_reverse_cons {κ : Type} (report : Report κ) (reports : List (Report κ)) :
    events (report :: reports).reverse = events reports.reverse ++ [report.event] := by
  rw [List.reverse_cons, events_append]
  rfl

variable {m : Machine} {p : m.State → Bytes → List (Event m.Kind) → Prop}
  {past : List (Event m.Kind)}

namespace Tokenizer

/-- A tokenizer between two buffers that keeps to `p` after the events of the past. -/
structure Upholds (t : Tokenizer m) (p : m.State → Bytes → List (Event m.Kind) → Prop)
    (past : List (Event m.Kind)) : Prop where
  holds : p t.state [] past
  continuation : t.continuation ≠ .none → m.continuesLines = true

namespace Scan

/-- A tokenizer in the middle of a buffer that keeps to `p` after the events of the past and those
it has found. -/
structure Upholds (s : Scan m) (p : m.State → Bytes → List (Event m.Kind) → Prop)
    (past : List (Event m.Kind)) : Prop where
  holds : p s.state s.piece.reverse (past ++ Report.events s.found.reverse)
  continuation : s.continuation ≠ .none → m.continuesLines = true

variable {s : Scan m}

/-- What a scan holds back, and what it is to skip, have no part in it. -/
theorem Upholds.frame (h : s.Upholds p past) (held : Option UInt8) (skip : Nat) :
    ({ s with held, skip } : Scan m).Upholds p past :=
  ⟨h.holds, h.continuation⟩

/-! ### Operations of a scan -/

theorem upholds_emit {kind : m.Kind} {fragment : Bool}
    (hc : s.continuation ≠ .none → m.continuesLines = true)
    (h : p s.state [] (past ++ Report.events s.found.reverse
      ++ [.token kind s.piece.reverse fragment])) :
    (s.emit kind fragment).Upholds p past := by
  refine ⟨?_, hc⟩
  rw [emit, Report.events_reverse_cons, ← List.append_assoc]
  exact h

theorem upholds_interrupt (hp : m.Upholds p) (h : s.Upholds p past) :
    s.interrupt.Upholds p past := by
  unfold interrupt
  split
  · exact h
  · next hc =>
    rw [Bool.not_eq_true, Bool.or_eq_false_iff] at hc
    have hpiece : s.piece.reverse ≠ [] := by
      intro hnil
      simp [List.reverse_eq_nil_iff.mp hnil] at hc
    exact upholds_emit h.continuation (hp.interrupt h.holds hc.2 hpiece)

theorem upholds_take (hp : m.Upholds p) (h : s.Upholds p past) {b : UInt8}
    (hr : ∀ next, m.step s.state b = .reject next → m.isIdle s.state = true) :
    (s.take b).Upholds p past := by
  unfold take
  split
  · next next hstep =>
    refine ⟨?_, h.continuation⟩
    show p next (b :: s.piece).reverse _
    rw [List.reverse_cons]
    exact hp.shift h.holds hstep
  · next next hstep =>
    refine @upholds_emit _ _ _ { s with state := (m.finish next).2, piece := b :: s.piece } _ _
      h.continuation ?_
    rw [List.reverse_cons]
    exact hp.accept h.holds hstep
  · next next hstep =>
    exact @upholds_emit _ _ _ { s with
      state := (m.finish next).2, first := s.first + s.piece.length, piece := [b] } _ _
      h.continuation (hp.refuse h.holds (hr next hstep) hstep)

theorem upholds_offer (hp : m.Upholds p) (h : s.Upholds p past) (b : UInt8) :
    (s.offer b).Upholds p past := by
  unfold offer
  split
  · next next hbusy hstep =>
    -- the octet closes the token in progress, and is taken between tokens
    have hclosed : ({ s with state := next } : Scan m).close.Upholds p past :=
      @upholds_emit _ _ _ { s with state := (m.finish next).2 } _ _ h.continuation
        (hp.reject h.holds hbusy hstep)
    exact upholds_take hp hclosed fun _ _ => m.isIdle_finish next
  · next hother =>
    refine upholds_take hp h ?_
    intro next hstep
    exact eq_true_of_ne_false fun hbusy => hother next hbusy hstep

theorem upholds_endLine (hp : m.Upholds p) (h : s.Upholds p past) : s.endLine.Upholds p past := by
  unfold endLine
  split
  · exact h
  · next hidle =>
    split
    · exact upholds_interrupt hp h
    · exact @upholds_emit _ _ _ { s with state := (m.finish s.state).2 } _ _ h.continuation
        (hp.close h.holds (Bool.not_eq_true _ ▸ hidle))

theorem upholds_newline (hp : m.Upholds p) (h : s.Upholds p past) {text : Bytes}
    (htext : text ∈ Bytes.lineEnds) : (s.newline text).Upholds p past := by
  refine ⟨?_, h.continuation⟩
  have hafter := hp.newline (hp.drop h.holds) htext
  rw [newline, Report.events_reverse_cons, ← List.append_assoc]
  split <;> exact hafter

/-! ### One octet -/

/-- However a scan goes on after an octet, it keeps to `p`. -/
def Next.Upholds (next : Next m) (p : m.State → Bytes → List (Event m.Kind) → Prop)
    (past : List (Event m.Kind)) : Prop :=
  match next with
  | .octet s | .afterLineFeed s | .wait s => s.Upholds p past

theorem upholds_join (hp : m.Upholds p) (h : s.Upholds p past) (hjoins : m.continuesLines = true)
    (continuation : Continuation) (b : UInt8) :
    ({ s with continuation, piece := b :: s.piece } : Scan m).Upholds p past := by
  refine ⟨?_, fun _ => hjoins⟩
  show p s.state (b :: s.piece).reverse _
  rw [List.reverse_cons]
  exact hp.join b h.holds hjoins

theorem upholds_advance (hp : m.Upholds p) (h : s.Upholds p past) (b : UInt8) (ahead : Ahead) :
    (s.advance b ahead).Upholds p past := by
  have hforget : ({ s with continuation := .none } : Scan m).Upholds p past :=
    ⟨h.holds, fun hne => absurd rfl hne⟩
  have hoffer := upholds_offer hp hforget b
  have hend := upholds_endLine hp hforget
  unfold advance
  split
  · next continuation hext =>
    have hne : s.continuation ≠ .none := fun hnone => by simp [hnone, Continuation.extend] at hext
    exact upholds_join hp h (h.continuation hne) continuation b
  · dsimp only
    split
    · next hlf => exact upholds_newline hp hend (by simp [hlf, Bytes.lineEnds])
    · split
      · next hcr =>
        split
        · exact upholds_newline hp hend (by simp [hcr, Bytes.lineEnds])
        · split
          · exact hforget.frame (some b) s.skip
          · exact upholds_newline hp hend (by simp [hcr, Bytes.lineEnds])
      · split
        · next hback =>
          split
          · have hjoins : m.continuesLines = true := by
              simp only [joinsLines, Bool.and_eq_true] at hback
              exact hback.2.1.1
            exact upholds_join hp hforget hjoins .backslash b
          · split
            · exact hforget.frame (some b) s.skip
            · exact hoffer
        · exact hoffer

/-! ### One buffer -/

theorem upholds_run (hp : m.Upholds p) (h : s.Upholds p past) (after : Ahead) (rest : Bytes) :
    (Scan.run after rest s).Upholds p past := by
  fun_induction Scan.run after rest s with
  | case1 s => exact upholds_interrupt hp h
  | case2 b rest s s' hadv ih =>
    have hnext := upholds_advance hp h b (rest.head?.elim after .octet)
    rw [hadv] at hnext
    exact ih hnext
  | case3 b rest s s' hadv =>
    have hnext := upholds_advance hp h b (rest.head?.elim after .octet)
    rw [hadv] at hnext
    exact upholds_interrupt hp hnext
  | case4 b s s' hadv =>
    have hnext := upholds_advance hp h b (([] : Bytes).head?.elim after .octet)
    rw [hadv] at hnext
    exact upholds_interrupt hp (hnext.frame s'.held 1)
  | case5 b s s' x rest hadv ih =>
    have hnext := upholds_advance hp h b ((x :: rest).head?.elim after .octet)
    rw [hadv] at hnext
    exact ih hnext

end Scan

/-! ### A sequence of buffers -/

variable {t : Tokenizer m}

/-- A scan that begins keeps to what the tokenizer keeps to. -/
theorem Upholds.scan (h : t.Upholds p past) (length first : Nat) :
    ({ t with length, first } : Scan m).Upholds p past := by
  refine ⟨?_, h.continuation⟩
  show p t.state [] (past ++ [])
  rw [List.append_nil]
  exact h.holds

/-- What a scan has found is past to the tokenizer it leaves. -/
theorem Scan.Upholds.toTokenizer (hp : m.Upholds p) {s : Scan m} (h : s.Upholds p past) :
    s.toTokenizer.Upholds p (past ++ Report.events s.found.reverse) :=
  ⟨hp.drop h.holds, h.continuation⟩

theorem upholds_release (hp : m.Upholds p) (h : t.Upholds p past) (after : Ahead) :
    (t.release after).Upholds p past := by
  unfold Tokenizer.release
  split
  · exact h.scan 0 0
  · next b _ =>
    have hheld : ({ t with held := none } : Tokenizer m).Upholds p past :=
      ⟨h.holds, h.continuation⟩
    exact Scan.upholds_run hp (hheld.scan 1 0) after [b]

theorem upholds_feed (hp : m.Upholds p) (h : t.Upholds p past) (buffer : Bytes) :
    (t.feed buffer).1.Upholds p (past ++ Report.events (t.feed buffer).2) := by
  cases buffer with
  | nil =>
    show t.Upholds p (past ++ [])
    rw [List.append_nil]
    exact h
  | cons b rest =>
    have hbefore := upholds_release hp h (.octet b)
    have hscanned := Scan.upholds_run hp
      ((hbefore.toTokenizer hp).scan (b :: rest).length (t.release (.octet b)).skip) .unknown
      ((b :: rest).drop (t.release (.octet b)).skip)
    rw [feed, Report.events_append, ← List.append_assoc]
    exact hscanned.toTokenizer hp

theorem upholds_flush (hp : m.Upholds p) (h : t.Upholds p past) :
    t.flush.1.Upholds p (past ++ Report.events t.flush.2) := by
  have hbefore := (upholds_release hp h .over).toTokenizer hp
  unfold flush
  dsimp only
  split
  · exact ⟨hbefore.holds, fun hne => absurd rfl hne⟩
  · next hidle =>
    -- the report that closes the last token has no octets
    refine ⟨?_, fun hne => absurd rfl hne⟩
    rw [Report.events_append, ← List.append_assoc]
    exact hp.close hbefore.holds (Bool.not_eq_true _ ▸ hidle)

theorem upholds_finish (hp : m.Upholds p) (h : t.Upholds p past) (buffers : List Bytes) :
    ∃ s, p s [] (past ++ Report.events (t.finish buffers).2) := by
  induction buffers generalizing t past with
  | nil => exact ⟨_, (upholds_flush hp h).holds⟩
  | cons buffer buffers ih =>
    rw [finish_cons, Report.events_append, ← List.append_assoc]
    exact ih (upholds_feed hp h buffer)

end Tokenizer

/-! ### What is said of each event -/

/-- What a machine keeps to: `p` of its state and the piece of the token that is not reported yet,
`q` of every event. -/
structure Machine.Keeps (m : Machine) (p : m.State → Bytes → Prop) (q : Event m.Kind → Prop) :
    Prop where
  start : p m.start []
  /-- An octet goes on the token. -/
  shift : ∀ {s piece b next}, p s piece → m.step s b = .shift next → p next (piece ++ [b])
  /-- An octet completes the token. -/
  accept : ∀ {s piece b next}, p s piece → m.step s b = .accept next →
    q (.token (m.finish next).1 (piece ++ [b]) false) ∧ p (m.finish next).2 []
  /-- An octet belongs to the next token. -/
  reject : ∀ {s piece b next}, p s piece → m.isIdle s = false → m.step s b = .reject next →
    q (.token (m.finish next).1 piece false) ∧ p (m.finish next).2 []
  /-- An octet is refused between tokens. -/
  refuse : ∀ {s piece b next}, p s piece → m.isIdle s = true → m.step s b = .reject next →
    q (.token TokenKind.error [b] false) ∧ p (m.finish next).2 []
  /-- A line or the input ends, and with it the token. -/
  close : ∀ {s piece}, p s piece → m.isIdle s = false →
    q (.token (m.finish s).1 piece false) ∧ p (m.finish s).2 []
  /-- The piece is reported, and the token goes on. -/
  interrupt : ∀ {s piece}, p s piece → m.isIdle s = false → piece ≠ [] →
    q (.token (m.kind s) piece true)
  /-- Nothing is left of the piece. -/
  drop : ∀ {s piece}, p s piece → p s []
  newline : ∀ {s text}, p s [] → text ∈ Bytes.lineEnds → q (.newline text) ∧ p (m.newline s) []
  /-- An octet of a line continuation. -/
  join : ∀ {s piece} b, p s piece → m.continuesLines = true → p s (piece ++ [b])

section Keeps

variable {p : m.State → Bytes → Prop} {q : Event m.Kind → Prop}

/-- One more event of which `q` holds leaves `q` true of all of them. -/
theorem Machine.Keeps.concat {s : m.State} {piece : Bytes} {last : Event m.Kind}
    {events : List (Event m.Kind)} (h : ∀ event ∈ events, q event) (hafter : q last ∧ p s piece) :
    p s piece ∧ ∀ event ∈ events ++ [last], q event :=
  ⟨hafter.2, List.forall_mem_append.mpr ⟨h, List.forall_mem_singleton.mpr hafter.1⟩⟩

theorem Machine.Keeps.upholds (hk : m.Keeps p q) :
    m.Upholds fun s piece events => p s piece ∧ ∀ event ∈ events, q event where
  shift h hstep := ⟨hk.shift h.1 hstep, h.2⟩
  accept h hstep := concat h.2 (hk.accept h.1 hstep)
  reject h hbusy hstep := concat h.2 (hk.reject h.1 hbusy hstep)
  refuse h hidle hstep := concat h.2 (hk.refuse h.1 hidle hstep)
  close h hbusy := concat h.2 (hk.close h.1 hbusy)
  interrupt h hbusy hpiece := concat h.2 ⟨hk.interrupt h.1 hbusy hpiece, hk.drop h.1⟩
  drop h := ⟨hk.drop h.1, h.2⟩
  newline h htext := concat h.2 (hk.newline h.1 htext)
  join b h hjoins := ⟨hk.join b h.1 hjoins, h.2⟩

/-- Every event of an input is as the machine keeps to, whatever buffers the input comes in. -/
theorem Machine.Keeps.forall_mem_events (hk : m.Keeps p q) (buffers : List Bytes) :
    ∀ event ∈ m.events buffers, q event := by
  have hfresh : (Tokenizer.fresh m).Upholds (fun s piece events => p s piece
      ∧ ∀ event ∈ events, q event) [] :=
    ⟨⟨hk.start, List.forall_mem_nil _⟩, fun hne => absurd rfl hne⟩
  obtain ⟨_, -, hevents⟩ := Tokenizer.upholds_finish hk.upholds hfresh buffers
  exact hevents

end Keeps

end MarkupFeed
