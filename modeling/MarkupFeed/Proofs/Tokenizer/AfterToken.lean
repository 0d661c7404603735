import MarkupFeed.Proofs.Tokenizer.Agreement
import MarkupFeed.Proofs.Tokenizer.Standing

/-!
# A tokenizer after a complete token

After a complete token a tokenizer goes on as one that begins there.

A token is completed by an octet, or ended by an octet that belongs to the next one or to a line
end; the scan then goes on behind the octet or with it (`Scan.goesOn_advance`), as one that has
found nothing yet and whose machine is in a state between tokens (`Scan.start`). Hence a scan that
reports a complete token ends as the scan of what is left of its buffer (`Scan.goesOn_run`). What is
left of an input are such a rest and the buffers behind it, and a tokenizer that is fed these
reports the same events: `Machine.exists_events_after_token`. Of a token that a held octet ends that
octet is left, as a buffer of its own (`exists_release`).
-/

namespace MarkupFeed

/-- An element of two lists after each other is in the one or in the other. -/
theorem exists_of_append_eq_append_cons {α : Type} {new more before after : List α} {x : α}
    (h : new ++ more = before ++ x :: after) :
    (∃ mid, new = before ++ x :: mid ∧ after = mid ++ more)
      ∨ ∃ front, before = new ++ front ∧ more = front ++ x :: after := by
  rcases List.append_eq_append_iff.mp h with ⟨front, rfl, hmore⟩ | ⟨mid, rfl, hmid⟩
  · exact .inr ⟨front, rfl, hmore⟩
  · cases mid with
    | nil => exact .inr ⟨[], by simp, hmid.symm⟩
    | cons y mid =>
      obtain ⟨rfl, rfl⟩ := List.cons.inj hmid
      exact .inl ⟨mid, rfl, rfl⟩

variable {m : Machine} {past : List (Event m.Kind)}

namespace Tokenizer

namespace Scan

variable {s s₀ : Scan m} {b : UInt8} {ahead : Ahead}

/-! ### Behind a token -/

/-- The scan a tokenizer begins between tokens. -/
def start (q : m.State) : Scan m := { state := q, length := 0, first := 0 }

theorem endLine_start {q : m.State} (hidle : m.isIdle q = true) :
    (start q).endLine = start q :=
  if_pos hidle

/-- Between tokens an octet that ends no line is taken, whatever follows. -/
theorem advance_start {q : m.State} (hidle : m.isIdle q = true) (hlf : b ≠ Octet.lineFeed)
    (hcr : b ≠ Octet.carriageReturn) :
    (start q).advance b ahead = .octet ((start q).take b) := by
  have hjoins : (start q).joinsLines = false := by simp [joinsLines, start, hidle]
  have hoffer : (start q).offer b = (start q).take b := by simp [offer, start, hidle]
  rw [advance_of_none rfl, if_neg hlf, if_neg hcr, hjoins, Bool.and_false, if_neg (by decide),
    hoffer]

/-- No octet is held back, and none is to be skipped. -/
def IsFree (s : Scan m) : Prop := s.held = none ∧ s.skip = 0

/-- The scan goes on as the other one, which has found the events. -/
def GoesOn (s s₀ : Scan m) (after : List (Event m.Kind)) : Prop :=
  s₀.events = after ∧ ∃ past, s.Agrees s₀ past

variable {before after later more : List (Event m.Kind)} {kind : m.Kind} {text : Bytes}

/-- How a scan goes on after a token that its next octet completes or ends: behind the octet, or
with it. -/
def Next.GoesOn (next : Next m) (b : UInt8) (ahead : Ahead) (after : List (Event m.Kind)) : Prop :=
  ∃ q, m.isIdle q = true
    ∧ ((∃ s, next = .octet s ∧ s.GoesOn (start q) after)
      ∨ ∃ past, next.Agrees ((start q).advance b ahead) past
        ∧ ((start q).advance b ahead).scan.events = after)

/-- What is done to both scans adds the same events. -/
theorem GoesOn.of_agrees {s' s₀' : Scan m} (h : s.GoesOn s₀ after)
    (hagrees : ∀ past, s.Agrees s₀ past → s'.Agrees s₀' past)
    (hmore : s'.events = s.events ++ more) : s'.GoesOn s₀' (after ++ more) := by
  obtain ⟨rfl, past, h⟩ := h
  refine ⟨?_, past, hagrees past h⟩
  rw [(hagrees past h).events_eq, h.events_eq, List.append_assoc] at hmore
  exact List.append_cancel_left hmore

/-- Between tokens a scan goes on as one that begins there. -/
theorem goesOn_start (hs : s.IsFree) (hc : s.continuation = .none)
    (hpiece : s.piece = []) : s.GoesOn (start s.state) [] := by
  obtain ⟨⟨state, held, continuation⟩, length, first, piece, found, skip⟩ := s
  obtain ⟨rfl, rfl⟩ : held = none ∧ skip = 0 := hs
  obtain rfl : continuation = .none := hc
  obtain rfl : piece = [] := hpiece
  exact ⟨rfl, _, length, first, found, rfl, (List.append_nil _).symm⟩

/-- A complete token is not among events all of which are pieces of tokens that go on, or line
ends. -/
theorem not_complete {events : List (Event m.Kind)}
    (h : ∀ event ∈ events, event.isFragment = true ∨ event.isNewline = true)
    (hsplit : events = before ++ .token kind text false :: after) : False := by
  have hmem : .token kind text false ∈ events :=
    hsplit ▸ List.mem_append_right before List.mem_cons_self
  simpa [Event.isFragment, Event.isNewline] using h _ hmem

theorem not_complete_of_events_eq {s' : Scan m} (hevents : s'.events = s.events)
    (h : s'.events = s.events ++ (before ++ .token kind text false :: after)) : False := by
  rw [hevents] at h
  exact absurd (List.self_eq_append_right.mp h) (by simp)

/-- A token that is reported last is followed by nothing. -/
theorem goesOn_emit (hs : s.IsFree) (hc : s.continuation = .none)
    (hidle : m.isIdle s.state = true) {last : m.Kind}
    (h : (s.emit last false).events = s.events ++ (before ++ .token kind text false :: after)) :
    ∃ q, m.isIdle q = true ∧ (s.emit last false).GoesOn (start q) after := by
  rw [events_emit] at h
  have hsplit := List.append_cancel_left h
  obtain rfl : after = [] := by
    cases before with
    | nil => exact (List.cons.inj hsplit).2.symm
    | cons event before => simp at hsplit
  exact ⟨s.state, hidle, goesOn_start hs hc rfl⟩

theorem goesOn_take (hs : s.IsFree) (hc : s.continuation = .none)
    (h : (s.take b).events = s.events ++ (before ++ .token kind text false :: after)) :
    ∃ q, m.isIdle q = true ∧ (s.take b).GoesOn (start q) after := by
  cases hstep : m.step s.state b with
  | shift next =>
    have hevents : (s.take b).events = s.events := by simp only [take, hstep]; rfl
    exact (not_complete_of_events_eq hevents h).elim
  | accept next =>
    simp only [take, hstep] at h ⊢
    exact @goesOn_emit _ { s with state := (m.finish next).2, piece := b :: s.piece } _ _ _ _
      hs hc (m.isIdle_finish next) _ h
  | reject next =>
    simp only [take, hstep] at h ⊢
    exact @goesOn_emit _ { s with
      state := (m.finish next).2, first := s.first + s.piece.length, piece := [b] } _ _ _ _
      hs hc (m.isIdle_finish next) _ h

/-- Behind a token that an octet ends or completes, a scan goes on with the octet or behind it. -/
theorem goesOn_offer (hs : s.IsFree) (hc : s.continuation = .none)
    (h : (s.offer b).events = s.events ++ (before ++ .token kind text false :: after)) :
    ∃ q, m.isIdle q = true
      ∧ ((s.offer b).GoesOn (start q) after ∨ (s.offer b).GoesOn ((start q).take b) after) := by
  unfold offer at h ⊢
  split at h
  · next next hbusy hstep =>
    -- the octet ends the token in progress, and is taken between tokens
    let closed : Scan m := { s with state := next }.close
    have hclosed : closed.events = s.events ++ [.token (m.finish next).1 s.piece.reverse false] :=
      events_emit _ _ _
    have hnew := (agrees_take (agrees_self closed) b).events_eq
    have hsplit := hnew.symm.trans h
    rw [hclosed, List.append_assoc] at hsplit
    replace hsplit := List.append_cancel_left hsplit
    cases before with
    | nil =>
      obtain ⟨-, rfl⟩ := List.cons.inj hsplit
      have hstart : closed.GoesOn (start (m.finish next).2) [] := goesOn_start hs hc rfl
      exact ⟨_, m.isIdle_finish next, .inr
        (hstart.of_agrees (fun _ hagrees => agrees_take hagrees b) hnew)⟩
    | cons event before =>
      -- the token is one of those that the octet completes or is refused as
      have htaken : (closed.take b).events
          = closed.events ++ (before ++ .token kind text false :: after) := by
        rw [hnew]
        exact congrArg _ (List.cons.inj hsplit).2
      obtain ⟨q, hidle, hq⟩ := goesOn_take (s := closed) hs hc htaken
      exact ⟨q, hidle, .inl hq⟩
  · next hother =>
    obtain ⟨q, hidle, hq⟩ := goesOn_take hs hc h
    exact ⟨q, hidle, .inl hq⟩

/-- Behind a token that a line end ends, a scan goes on with the line end. -/
theorem goesOn_lineEnd (hs : s.IsFree) (hc : s.continuation = .none)
    {ending : Bytes} (h : (s.endLine.newline ending).events
      = s.events ++ (before ++ .token kind text false :: after)) :
    ∃ q, m.isIdle q = true
      ∧ (s.endLine.newline ending).GoesOn ((start q).endLine.newline ending) after := by
  rw [events_newline] at h
  by_cases hidle : m.isIdle s.state = true
  · -- nothing but the line end is reported
    rw [endLine, if_pos hidle] at h
    have hsplit := List.append_cancel_left h
    exact (not_complete (by simp [Event.isNewline]) hsplit).elim
  by_cases hspans : m.spansNewline s.state = true
  · -- a token that outlives the line is not complete
    obtain ⟨pieces, hpieces, hfragment⟩ := s.exists_events_interrupt
    rw [endLine, if_neg hidle, if_pos hspans, hpieces, List.append_assoc] at h
    refine (not_complete ?_ (List.append_cancel_left h)).elim
    intro event hmem
    rcases List.mem_append.mp hmem with hmem | hmem
    · exact .inl (hfragment event hmem)
    · exact .inr (List.mem_singleton.mp hmem ▸ rfl)
  have hend : s.endLine = s.close := by rw [endLine, if_neg hidle, if_neg hspans]
  have hclosed : s.close.events
      = s.events ++ [.token (m.finish s.state).1 s.piece.reverse false] := events_emit _ _ _
  rw [hend, hclosed, List.append_assoc] at h
  have hsplit := List.append_cancel_left h
  cases before with
  | nil =>
    obtain ⟨-, rfl⟩ := List.cons.inj hsplit
    have hstart : s.close.GoesOn (start (m.finish s.state).2) [] :=
      goesOn_start hs hc rfl
    have hidle : m.isIdle (m.finish s.state).2 = true := m.isIdle_finish _
    refine ⟨_, hidle, ?_⟩
    rw [hend, endLine_start hidle]
    exact hstart.of_agrees (fun _ hagrees => agrees_newline hagrees ending)
      (events_newline _ ending)
  | cons event before =>
    exact (not_complete (by simp [Event.isNewline]) (List.cons.inj hsplit).2).elim

/-! ### One octet -/

/-- A token is ended by a line end, which the scan goes on with. -/
theorem goesOn_advance_lineEnd (hs : s.IsFree) (hc : s.continuation = .none)
    (hb : b = Octet.lineFeed ∨ b = Octet.carriageReturn)
    (h : (s.advance b ahead).scan.events
      = s.events ++ (before ++ .token kind text false :: after)) :
    (s.advance b ahead).GoesOn b ahead after := by
  rw [advance_of_none hc] at h ⊢
  by_cases hlf : b = Octet.lineFeed
  · rw [if_pos hlf] at h ⊢
    obtain ⟨q, hidle, hevents, past, hq⟩ := goesOn_lineEnd hs hc h
    refine ⟨q, hidle, .inr ⟨past, ?_⟩⟩
    rw [advance_of_none rfl, if_pos hlf]
    exact ⟨.octet hq, hevents⟩
  have hcr : b = Octet.carriageReturn := hb.resolve_left hlf
  rw [if_neg hlf, if_pos hcr] at h ⊢
  by_cases hcrlf : ahead = .octet Octet.lineFeed
  · rw [if_pos hcrlf] at h ⊢
    obtain ⟨q, hidle, hevents, past, hq⟩ := goesOn_lineEnd hs hc h
    refine ⟨q, hidle, .inr ⟨past, ?_⟩⟩
    rw [advance_of_none rfl, if_neg hlf, if_pos hcr, if_pos hcrlf]
    exact ⟨.afterLineFeed hq, hevents⟩
  rw [if_neg hcrlf] at h ⊢
  by_cases hunknown : ahead = .unknown
  · rw [if_pos hunknown] at h
    exact (not_complete_of_events_eq rfl h).elim
  · rw [if_neg hunknown] at h ⊢
    obtain ⟨q, hidle, hevents, past, hq⟩ := goesOn_lineEnd hs hc h
    refine ⟨q, hidle, .inr ⟨past, ?_⟩⟩
    rw [advance_of_none rfl, if_neg hlf, if_pos hcr, if_neg hcrlf, if_neg hunknown]
    exact ⟨.octet hq, hevents⟩

/-- An octet that ends no line is offered, or goes into a line continuation and reports nothing. -/
theorem advance_eq_offer (hc : s.continuation = .none) (hlf : b ≠ Octet.lineFeed)
    (hcr : b ≠ Octet.carriageReturn) :
    s.advance b ahead = .octet (s.offer b) ∨ (s.advance b ahead).scan.events = s.events := by
  rw [advance_of_none hc, if_neg hlf, if_neg hcr]
  split
  · split
    · exact .inr rfl
    · split
      · exact .inr rfl
      · exact .inl rfl
  · exact .inl rfl

/-- A token is completed or ended by an octet, which the scan goes on behind or with. -/
theorem goesOn_advance (hs : s.IsFree)
    (h : (s.advance b ahead).scan.events
      = s.events ++ (before ++ .token kind text false :: after)) :
    (s.advance b ahead).GoesOn b ahead after := by
  cases hext : s.continuation.extend b with
  | some continuation =>
    have hevents : (s.advance b ahead).scan.events = s.events := by rw [advance, hext]; rfl
    exact (not_complete_of_events_eq hevents h).elim
  | none =>
    let s' : Scan m := { s with continuation := .none }
    have hadv : s.advance b ahead = s'.advance b ahead := by
      rw [advance, advance, hext]
      rfl
    rw [hadv] at h ⊢
    by_cases hb : b = Octet.lineFeed ∨ b = Octet.carriageReturn
    · exact goesOn_advance_lineEnd (s := s') hs rfl hb h
    obtain ⟨hlf, hcr⟩ := not_or.mp hb
    rcases advance_eq_offer (s := s') (b := b) rfl hlf hcr with hoffer | hevents
    · rw [hoffer] at h ⊢
      obtain ⟨q, hidle, hq | ⟨hevents, past, hq⟩⟩ := goesOn_offer (s := s') hs rfl h
      · exact ⟨q, hidle, .inl ⟨_, rfl, hq⟩⟩
      · refine ⟨q, hidle, .inr ⟨past, ?_⟩⟩
        rw [advance_start hidle hlf hcr]
        exact ⟨.octet hq, hevents⟩
    · exact (not_complete_of_events_eq hevents h).elim

/-- What an octet changes: nothing about a held octet and about what is to be skipped, or, if it is
held back itself, nothing about the events. -/
def Next.KeptFrom (s : Scan m) : Next m → Prop
  | .octet s' | .afterLineFeed s' => s'.held = s.held ∧ s'.skip = s.skip
  | .wait s' => s'.events = s.events

theorem keptFrom_advance (s : Scan m) (b : UInt8) (ahead : Ahead) :
    (s.advance b ahead).KeptFrom s := by
  unfold advance
  split
  · exact ⟨rfl, rfl⟩
  · dsimp only
    split
    · exact kept_lineEnd { s with continuation := .none } _
    · split
      · split
        · exact kept_lineEnd { s with continuation := .none } _
        · split
          · rfl
          · exact kept_lineEnd { s with continuation := .none } _
      · split
        · split
          · exact ⟨rfl, rfl⟩
          · split
            · rfl
            · exact kept_offer { s with continuation := .none } b
        · exact kept_offer { s with continuation := .none } b

/-! ### One buffer -/

/-- A scan that ends adds no complete token. -/
theorem not_complete_interrupt (hevents : s.events = past)
    (h : s.interrupt.events = past ++ (before ++ .token kind text false :: after)) : False := by
  obtain ⟨pieces, hpieces, hfragment⟩ := s.exists_events_interrupt
  rw [hpieces, hevents] at h
  exact not_complete (fun event hmem => .inl (hfragment event hmem)) (List.append_cancel_left h)

/-- A scan that goes on behind a token of its next octet goes on with the octet or behind it. -/
theorem goesOn_cons (hs : s.IsFree) (atEnd : Ahead) (rest : Bytes)
    (h : (s.advance b (rest.head?.elim atEnd .octet)).scan.events
      = s.events ++ (before ++ .token kind text false :: after))
    (hmore : (Scan.run atEnd (b :: rest) s).events
      = (s.advance b (rest.head?.elim atEnd .octet)).scan.events ++ more) :
    ∃ q, m.isIdle q = true ∧ ∃ left, left <:+ b :: rest
      ∧ (Scan.run atEnd (b :: rest) s).GoesOn (Scan.run atEnd left (start q)) (after ++ more) := by
  rw [run_cons] at hmore ⊢
  obtain ⟨q, hidle, ⟨s', hadv, hq⟩ | ⟨past, hq, rfl⟩⟩ := goesOn_advance hs h
  · rw [hadv] at hmore ⊢
    exact ⟨q, hidle, rest, List.suffix_cons b rest,
      hq.of_agrees (fun _ hagrees => agrees_run hagrees atEnd rest) hmore⟩
  · refine ⟨q, hidle, b :: rest, List.suffix_refl _, ?_⟩
    have hresume := agrees_resume hq atEnd rest
    rw [run_cons]
    refine ⟨?_, past, hresume⟩
    rw [hresume.events_eq, hq.scan.events_eq, List.append_assoc] at hmore
    exact List.append_cancel_left hmore

/-- Behind a complete token the scan of a buffer goes on as the scan of what is left of the
buffer. -/
theorem goesOn_run (hs : s.IsFree) (atEnd : Ahead) (rest : Bytes)
    (h : (Scan.run atEnd rest s).events
      = s.events ++ (before ++ .token kind text false :: after)) :
    ∃ q, m.isIdle q = true ∧ ∃ left, left <:+ rest
      ∧ (Scan.run atEnd rest s).GoesOn (Scan.run atEnd left (start q)) after := by
  induction rest using buffer_induction generalizing s before with
  | nil => exact (not_complete_interrupt rfl h).elim
  | cons b rest ih ihTail =>
    let ahead : Ahead := rest.head?.elim atEnd .octet
    have hkept := keptFrom_advance s b ahead
    obtain ⟨new, hnew⟩ := s.exists_events_advance b ahead
    obtain ⟨more, hmore⟩ := exists_events_resume (s.advance b ahead) atEnd rest
    have hsplit : new ++ more = before ++ .token kind text false :: after := by
      rw [run_cons, hmore, hnew, List.append_assoc] at h
      exact List.append_cancel_left h
    rcases exists_of_append_eq_append_cons hsplit with ⟨mid, rfl, rfl⟩ | ⟨front, rfl, rfl⟩
    · exact goesOn_cons hs atEnd rest hnew (run_cons atEnd b rest s ▸ hmore)
    · -- the token is one of those behind the octet
      rw [run_cons]
      change ∃ q, _ ∧ ∃ left, _ ∧ ((s.advance b ahead).resume atEnd rest).GoesOn _ _
      generalize s.advance b ahead = next at hkept hmore ⊢
      cases next with
      | wait s' => exact (not_complete_interrupt rfl hmore).elim
      | octet s' =>
        obtain ⟨q, hidle, left, hleft, hq⟩ := ih ⟨hkept.1.trans hs.1, hkept.2.trans hs.2⟩ hmore
        exact ⟨q, hidle, left, hleft.trans (List.suffix_cons b rest), hq⟩
      | afterLineFeed s' =>
        cases rest with
        | nil => exact (not_complete_interrupt (s := { s' with skip := 1 }) rfl hmore).elim
        | cons x rest =>
          obtain ⟨q, hidle, left, hleft, hq⟩ :=
            ihTail ⟨hkept.1.trans hs.1, hkept.2.trans hs.2⟩ hmore
          have hsuffix : rest <:+ b :: x :: rest := ⟨[b, x], rfl⟩
          exact ⟨q, hidle, left, hleft.trans hsuffix, hq⟩

end Scan

/-! ### A sequence of buffers -/

open Scan

/-- The tokenizer that begins between tokens. -/
def between (q : m.State) : Tokenizer m := { state := q }

variable {t : Tokenizer m} {before after : List (Event m.Kind)} {kind : m.Kind} {text : Bytes}

theorem feedAll_append (t : Tokenizer m) (buffers more : List Bytes) :
    t.feedAll (buffers ++ more) = (((t.feedAll buffers).1.feedAll more).1,
      (t.feedAll buffers).2 ++ ((t.feedAll buffers).1.feedAll more).2) := by
  induction buffers generalizing t with
  | nil => rfl
  | cons buffer buffers ih =>
    simp only [List.cons_append, feedAll, ih, List.append_assoc]

theorem feedAll_singleton (t : Tokenizer m) (buffer : Bytes) :
    t.feedAll [buffer] = t.feed buffer := by
  simp [feedAll]

/-- What a tokenizer finds in a buffer, behind the held octet. -/
def scanned (t : Tokenizer m) (b : UInt8) (tail : Bytes) : Scan m :=
  (t.release (.octet b)).toTokenizer.scan (b :: tail) (t.release (.octet b)).skip .unknown

theorem events_feed (t : Tokenizer m) (b : UInt8) (tail : Bytes) :
    Report.events (t.feed (b :: tail)).2
      = (t.release (.octet b)).events ++ (t.scanned b tail).events :=
  Report.events_append _ _

theorem agrees_between (q : m.State) (length first : Nat) :
    ({ between q with length, first } : Scan m).Agrees (start q) [] :=
  ⟨length, first, [], rfl, rfl⟩

/-- A tokenizer that begins between tokens scans a buffer from there. -/
theorem feed_between (q : m.State) (buffer : Bytes) :
    ((between q).feed buffer).1 = (Scan.run .unknown buffer (start q)).toTokenizer
      ∧ Report.events ((between q).feed buffer).2
        = (Scan.run .unknown buffer (start q)).events := by
  cases buffer with
  | nil => exact ⟨rfl, rfl⟩
  | cons b tail =>
    have hagrees := agrees_run (agrees_between q (b :: tail).length 0) .unknown (b :: tail)
    exact ⟨hagrees.toTokenizer_eq, hagrees.events_eq⟩

/-- A held octet is not held back any more once it is known what follows. -/
theorem held_release (t : Tokenizer m) (b : UInt8) : (t.release (.octet b)).held = none := by
  have hfits : (Ahead.octet b).Fits [b] := rfl
  exact (Carries.release Reading.isCarried_true (t := t) ⟨[], trivial⟩ hfits).held_eq (by simp)

/-- A tokenizer that is fed one octet from between tokens on comes to the scan of the octet that
knows what follows it, once it knows too. -/
theorem run_singleton {q : m.State} (hidle : m.isIdle q = true) (b : UInt8) (atEnd : Ahead) :
    let fed := (between q).feed [b]
    (Scan.run atEnd [b] (start q)).toTokenizer = (fed.1.release atEnd).toTokenizer
      ∧ (Scan.run atEnd [b] (start q)).skip = (fed.1.release atEnd).skip
      ∧ (Scan.run atEnd [b] (start q)).events
        = Report.events fed.2 ++ (fed.1.release atEnd).events := by
  intro fed
  by_cases hcr : b = Octet.carriageReturn
  · -- the octet is held back, and released
    subst hcr
    have hfed : fed = ({ between q with held := some Octet.carriageReturn }, []) := rfl
    have hagrees := agrees_run (agrees_between q 1 0) atEnd [Octet.carriageReturn]
    rw [hfed]
    exact ⟨hagrees.toTokenizer_eq.symm, hagrees.skip_eq.symm, hagrees.events_eq.symm⟩
  · -- the octet is read, whatever follows it
    obtain ⟨s, hadvance⟩ : ∃ s, ∀ ahead, (start q).advance b ahead = .octet s := by
      by_cases hlf : b = Octet.lineFeed
      · exact ⟨_, fun ahead => by rw [advance_of_none rfl, if_pos hlf]⟩
      · exact ⟨_, fun ahead => advance_start hidle hlf hcr⟩
    have hrun (ahead : Ahead) : Scan.run ahead [b] (start q) = s.interrupt := by
      rw [run_cons, hadvance]
      rfl
    have hkept : s.held = none ∧ s.skip = 0 := by
      have hkept := keptFrom_advance (start q) b atEnd
      rwa [hadvance] at hkept
    obtain ⟨hstate, hevents⟩ := feed_between q [b]
    have hfed : fed.1 = s.interrupt.toTokenizer := by rw [hstate, hrun]
    have hheld : fed.1.held = none := by
      rw [hfed]
      exact (kept_interrupt s).1.trans hkept.1
    have hrelease : fed.1.release atEnd = { fed.1 with length := 0, first := 0 } := by
      rw [release, hheld]
    rw [hrun, hrelease]
    refine ⟨hfed.symm, (kept_interrupt s).2.trans hkept.2, ?_⟩
    rw [hevents, hrun]
    exact (List.append_nil _).symm

/-- Behind a token of a held octet, a tokenizer releases the octet as one does that begins there. -/
theorem exists_release {atEnd : Ahead}
    (h : (t.release atEnd).events = before ++ .token kind text false :: after) :
    ∃ q, m.isIdle q = true ∧ ∃ buffers,
      let fed := (between q).feedAll buffers
      (t.release atEnd).toTokenizer = (fed.1.release atEnd).toTokenizer
        ∧ (t.release atEnd).skip = (fed.1.release atEnd).skip
        ∧ after = Report.events fed.2 ++ (fed.1.release atEnd).events := by
  cases hheld : t.held with
  | none =>
    have hnone : (t.release atEnd).events = [] := by rw [release, hheld]; rfl
    rw [hnone] at h
    exact absurd h (by simp)
  | some b =>
    have hrelease : t.release atEnd
        = Scan.run atEnd [b] { t with held := none, length := 1, first := 0 } := by
      rw [release, hheld]
      rfl
    rw [hrelease] at h ⊢
    obtain ⟨q, hidle, left, hleft, rfl, past, hq⟩ := goesOn_run ⟨rfl, rfl⟩ atEnd [b] h
    refine ⟨q, hidle, ?_⟩
    obtain ⟨front, hfront⟩ := hleft
    rcases List.append_eq_singleton_iff.mp hfront with ⟨-, rfl⟩ | ⟨-, rfl⟩
    · obtain ⟨hstate, hskip, hevents⟩ := run_singleton hidle b atEnd
      refine ⟨[[b]], ?_⟩
      rw [feedAll_singleton]
      exact ⟨hq.toTokenizer_eq.trans hstate, hq.skip_eq.trans hskip, hevents⟩
    · exact ⟨[], hq.toTokenizer_eq, hq.skip_eq, rfl⟩

/-- Behind a token of a buffer, a tokenizer goes on as one that begins there, and is fed what is
left of the buffer. -/
theorem exists_feed {buffer : Bytes}
    (h : Report.events (t.feed buffer).2 = before ++ .token kind text false :: after) :
    ∃ q, m.isIdle q = true ∧ ∃ buffers,
      ((between q).feedAll buffers).1 = (t.feed buffer).1
        ∧ Report.events ((between q).feedAll buffers).2 = after := by
  cases buffer with
  | nil => exact absurd h (by simp [feed, Report.events])
  | cons b tail =>
    rw [events_feed] at h
    rcases exists_of_append_eq_append_cons h with ⟨mid, hmid, rfl⟩ | ⟨front, rfl, hfront⟩
    · -- the token is one of the held octet
      obtain ⟨q, hidle, buffers, hstate, hskip, rfl⟩ := exists_release hmid
      let fed := (between q).feedAll buffers
      have hscanned : fed.1.scanned b tail = t.scanned b tail := by
        rw [scanned, scanned, hstate, hskip]
      refine ⟨q, hidle, buffers ++ [b :: tail], ?_⟩
      rw [feedAll_append, feedAll_singleton, Report.events_append, events_feed, hscanned,
        List.append_assoc]
      exact ⟨congrArg Scan.toTokenizer hscanned, rfl⟩
    · have hfree : IsFree ({ (t.release (.octet b)).toTokenizer with
          length := (b :: tail).length, first := (t.release (.octet b)).skip } : Scan m) :=
        ⟨t.held_release b, rfl⟩
      obtain ⟨q, hidle, left, -, rfl, past, hq⟩ := goesOn_run hfree .unknown _ hfront
      obtain ⟨hstate, hleft⟩ := feed_between q left
      refine ⟨q, hidle, [left], ?_⟩
      rw [feedAll_singleton]
      exact ⟨hstate.trans hq.toTokenizer_eq.symm, hleft⟩

/-- The end of the input releases the held octet and closes the token in progress. -/
theorem events_flush (t : Tokenizer m) :
    Report.events t.flush.2
      = (t.release .over).events ++ Reading.ending ⟨(t.release .over).state, [], .none⟩ := by
  unfold flush Reading.ending
  dsimp only
  split
  · exact (List.append_nil _).symm
  · exact Report.events_append _ _

theorem events_finish_append (t : Tokenizer m) (buffers more : List Bytes) :
    Report.events (t.finish (buffers ++ more)).2
      = Report.events (t.feedAll buffers).2
        ++ Report.events ((t.feedAll buffers).1.finish more).2 := by
  simp only [finish, feedAll_append, Report.events_append, List.append_assoc]

theorem exists_flush
    (h : Report.events t.flush.2 = before ++ .token kind text false :: after) :
    ∃ q, m.isIdle q = true ∧ ∃ rest, Report.events ((between q).finish rest).2 = after := by
  rw [events_flush] at h
  rcases exists_of_append_eq_append_cons h with ⟨mid, hmid, rfl⟩ | ⟨front, -, hfront⟩
  · obtain ⟨q, hidle, rest, hstate, -, rfl⟩ := exists_release hmid
    refine ⟨q, hidle, rest, ?_⟩
    have hfinish := events_finish_append (between q) rest []
    rw [List.append_nil] at hfinish
    rw [hfinish, List.append_assoc, hstate]
    exact congrArg _ (events_flush _)
  · -- the token is the last one of the input
    let q := (m.finish (t.release .over).state).2
    have hidle : m.isIdle q = true := m.isIdle_finish _
    refine ⟨q, hidle, [], ?_⟩
    have hnil : Report.events ((between q).finish []).2 = Reading.ending ⟨q, [], .none⟩ :=
      events_flush (between q)
    rw [hnil, Reading.ending, if_pos hidle]
    unfold Reading.ending at hfront
    split at hfront
    · exact absurd hfront (by simp)
    · rcases List.append_eq_singleton_iff.mp hfront.symm with ⟨-, htail⟩ | ⟨-, htail⟩
      · exact (List.cons.inj htail).2.symm
      · exact absurd htail (by simp)

/-- Behind a complete token, a tokenizer reports what one reports that begins there. -/
theorem exists_finish {buffers : List Bytes}
    (h : Report.events (t.finish buffers).2 = before ++ .token kind text false :: after) :
    ∃ q, m.isIdle q = true ∧ ∃ rest, Report.events ((between q).finish rest).2 = after := by
  induction buffers generalizing t before with
  | nil => exact exists_flush h
  | cons buffer buffers ih =>
    rw [finish_cons, Report.events_append] at h
    rcases exists_of_append_eq_append_cons h with ⟨mid, hmid, rfl⟩ | ⟨front, rfl, hfront⟩
    · obtain ⟨q, hidle, rest, hstate, rfl⟩ := exists_feed hmid
      exact ⟨q, hidle, rest ++ buffers, by rw [events_finish_append, hstate]⟩
    · exact ih hfront

end Tokenizer

/-- Behind a complete token of an input, in whatever buffers it comes, the events are those of a
tokenizer that begins there between tokens. -/
theorem Machine.exists_events_after_token {buffers : List Bytes}
    {before after : List (Event m.Kind)} {kind : m.Kind} {text : Bytes}
    (h : m.events buffers = before ++ .token kind text false :: after) :
    ∃ q, m.isIdle q = true
      ∧ ∃ rest, after = Report.events ((Tokenizer.between q).finish rest).2 := by
  obtain ⟨q, hidle, rest, hrest⟩ := Tokenizer.exists_finish (t := Tokenizer.fresh m) h
  exact ⟨q, hidle, rest, hrest.symm⟩

end MarkupFeed
