import MarkupFeed.Proofs.Tokenizer.Lines

/-!
# Where a tokenizer stands in its input

A tokenizer stands where a reading of its whole input stands, whatever buffers the input comes in.

`Reading.next` is one step of a reading, and `Reading.Reads` lists what such a step can be. What
every step hands on to the reading after it (`Reading.IsCarried`) is handed on by every octet that
a scan reads (`Scan.carries_advance`), hence by every buffer (`Carries.feed`) and by a held octet
(`Carries.release`). There is no law for the machine in this, for what a token is made of plays no
part.
-/

namespace MarkupFeed

variable {m : Machine}

namespace Reading

/-! ### One step of a reading -/

/-- The next step of a reading: the events it gives out, the reading after it, and the input that is
left. -/
def next (r : Reading m) : Bytes → Option (List (Event m.Kind) × Reading m × Bytes)
  | [] => none
  | b :: rest =>
    match r.continuation.extend b with
    | some continuation => some ([], ⟨r.state, r.run ++ [b], continuation⟩, rest)
    | none =>
      if b = Octet.carriageReturn ∧ rest.head? = some Octet.lineFeed then
        some ((r.lineEnd [b, Octet.lineFeed]).1, (r.lineEnd [b, Octet.lineFeed]).2, rest.tail)
      else some ((r.advance b rest).1, (r.advance b rest).2, rest)

variable {r : Reading m}

theorem next_of_extend {b : UInt8} {continuation : Continuation}
    (h : r.continuation.extend b = some continuation) (rest : Bytes) :
    r.next (b :: rest) = some ([], ⟨r.state, r.run ++ [b], continuation⟩, rest) := by
  rw [next]
  simp only [h]

/-- An octet that does not go on a line continuation ends it. -/
theorem next_of_not_extend {b : UInt8} (h : r.continuation.extend b = none) (rest : Bytes) :
    r.next (b :: rest) = next ⟨r.state, r.run, .none⟩ (b :: rest) := by
  rw [next, next]
  simp only [h]
  rfl

theorem next_advance {b : UInt8} {rest : Bytes} (h : r.continuation.extend b = none)
    (hb : ¬(b = Octet.carriageReturn ∧ rest.head? = some Octet.lineFeed)) :
    r.next (b :: rest) = some ((r.advance b rest).1, (r.advance b rest).2, rest) := by
  rw [next]
  simp only [h, if_neg hb]

theorem next_lineEnd {text rest : Bytes} (hend : EndsLine text rest)
    (h : ∀ b ∈ text.head?, r.continuation.extend b = none) :
    r.next (text ++ rest) = some ((r.lineEnd text).1, (r.lineEnd text).2, rest) := by
  obtain ⟨htext, hrest⟩ := hend
  simp only [Bytes.lineEnds, List.mem_cons, List.not_mem_nil, or_false] at htext
  rcases htext with rfl | rfl | rfl
  · have hlf : ¬(Octet.lineFeed = Octet.carriageReturn ∧ rest.head? = some Octet.lineFeed) :=
      fun h => absurd h.1 (by decide)
    show r.next (Octet.lineFeed :: rest) = _
    rw [next_advance (h _ rfl) hlf, advance, if_pos (.inl rfl)]
  · show r.next (Octet.carriageReturn :: rest) = _
    rw [next_advance (h _ rfl) fun h => hrest rfl h.2, advance, if_pos (.inr rfl)]
  · show r.next (Octet.carriageReturn :: Octet.lineFeed :: rest) = _
    rw [next]
    simp [h Octet.carriageReturn rfl]

theorem EndsLine.exists_eq_cons {text rest : Bytes} (h : EndsLine text rest) :
    ∃ b tail, text = b :: tail :=
  List.exists_cons_of_ne_nil fun hnil => absurd (hnil ▸ h.1) (by decide)

/-- An octet that is no line end goes on no line continuation. -/
theorem extend_of_not_lineEnd (c : Continuation) {b : UInt8}
    (hb : ¬(b = Octet.lineFeed ∨ b = Octet.carriageReturn)) : c.extend b = none := by
  rw [not_or] at hb
  cases c <;> simp [Continuation.extend, hb.1, hb.2]

theorem next_join {rest : Bytes} (hjoins : r.joinsLines = true) (hrest : atLineEnd rest = true) :
    r.next (Octet.backslash :: rest)
      = some ([], ⟨r.state, r.run ++ [Octet.backslash], .backslash⟩, rest) := by
  have hnone := extend_of_not_lineEnd r.continuation
    (b := Octet.backslash) (not_or.mpr ⟨by decide, by decide⟩)
  rw [next_advance hnone fun h => absurd h.1 (by decide), advance, if_neg (by decide),
    if_pos ⟨rfl, hjoins, hrest⟩]

theorem next_offer {b : UInt8} {rest : Bytes}
    (hb : ¬(b = Octet.lineFeed ∨ b = Octet.carriageReturn))
    (hjoins : ¬(b = Octet.backslash ∧ r.joinsLines = true ∧ atLineEnd rest = true)) :
    r.next (b :: rest) = some ((r.offer b).1, (r.offer b).2, rest) := by
  rw [next_advance (extend_of_not_lineEnd _ hb) fun h => hb (.inr h.1), advance, if_neg hb,
    if_neg hjoins]

/-- An octet without a meaning for lines is offered, wherever a line continuation stood. -/
theorem advance_of_not_joins {b : UInt8} {rest : Bytes}
    (hb : ¬(b = Octet.lineFeed ∨ b = Octet.carriageReturn))
    (hjoins : ¬(b = Octet.backslash ∧ r.joinsLines = true ∧ atLineEnd rest = true)) :
    advance ⟨r.state, r.run, .none⟩ b rest = r.offer b := by
  rw [advance, if_neg hb]
  exact if_neg hjoins

/-- What a step of a reading can be. -/
inductive Reads (r : Reading m) : Bytes → List (Event m.Kind) → Reading m → Bytes → Prop
  /-- An octet goes on a line continuation. -/
  | extend {b : UInt8} {continuation : Continuation} {rest : Bytes}
      (hextend : r.continuation.extend b = some continuation) :
      Reads r (b :: rest) [] ⟨r.state, r.run ++ [b], continuation⟩ rest
  /-- A line ends. -/
  | lineEnd {text rest : Bytes} (hend : EndsLine text rest)
      (hextend : ∀ b ∈ text.head?, r.continuation.extend b = none) :
      Reads r (text ++ rest) (r.lineEnd text).1 (r.lineEnd text).2 rest
  /-- A backslash joins two lines. -/
  | join {rest : Bytes} (hjoins : r.joinsLines = true) (hrest : atLineEnd rest = true) :
      Reads r (Octet.backslash :: rest) [] ⟨r.state, r.run ++ [Octet.backslash], .backslash⟩ rest
  /-- An octet means nothing for lines. -/
  | offer {b : UInt8} {rest : Bytes} (hb : ¬(b = Octet.lineFeed ∨ b = Octet.carriageReturn))
      (hjoins : ¬(b = Octet.backslash ∧ r.joinsLines = true ∧ atLineEnd rest = true)) :
      Reads r (b :: rest) (r.offer b).1 (r.offer b).2 rest

theorem Reads.next_eq {input rest : Bytes} {given : List (Event m.Kind)} {r' : Reading m}
    (h : r.Reads input given r' rest) : r.next input = some (given, r', rest) := by
  cases h with
  | extend hextend => exact next_of_extend hextend rest
  | lineEnd hend hextend => exact next_lineEnd hend hextend
  | join hjoins hrest => exact next_join hjoins hrest
  | offer hb hjoins => exact next_offer hb hjoins

/-- Every octet is read. -/
theorem exists_reads (r : Reading m) (b : UInt8) (rest : Bytes) :
    ∃ given r' rest', r.Reads (b :: rest) given r' rest' := by
  cases hextend : r.continuation.extend b with
  | some continuation => exact ⟨_, _, _, .extend hextend⟩
  | none =>
    by_cases hb : b = Octet.lineFeed ∨ b = Octet.carriageReturn
    · by_cases hcrlf : b = Octet.carriageReturn ∧ rest.head? = some Octet.lineFeed
      · obtain ⟨tail, rfl⟩ := List.head?_eq_some_iff.mp hcrlf.2
        have hend : EndsLine [b, Octet.lineFeed] tail :=
          ⟨by simp [Bytes.lineEnds, hcrlf.1], fun h => absurd h (by simp)⟩
        exact ⟨_, _, _, .lineEnd hend fun c hc => Option.some.inj hc ▸ hextend⟩
      · have hend : EndsLine [b] rest := by
          refine ⟨?_, fun h hrest => hcrlf ⟨List.singleton_inj.mp h, hrest⟩⟩
          rcases hb with rfl | rfl <;> simp [Bytes.lineEnds]
        exact ⟨_, _, _, .lineEnd hend fun c hc => Option.some.inj hc ▸ hextend⟩
    · by_cases hjoins : b = Octet.backslash ∧ r.joinsLines = true ∧ atLineEnd rest = true
      · obtain ⟨rfl, hjoins, hrest⟩ := hjoins
        exact ⟨_, _, _, .join hjoins hrest⟩
      · exact ⟨_, _, _, .offer hb hjoins⟩

/-- A step of a reading is nothing else. -/
theorem reads_of_next {input rest : Bytes} {given : List (Event m.Kind)} {r' : Reading m}
    (h : r.next input = some (given, r', rest)) : r.Reads input given r' rest := by
  cases input with
  | nil => exact absurd h (by simp [next])
  | cons b input =>
    obtain ⟨given', r'', rest', hreads⟩ := r.exists_reads b input
    have heq := Option.some.inj (hreads.next_eq.symm.trans h)
    obtain ⟨rfl, rfl, rfl⟩ : given' = given ∧ r'' = r' ∧ rest' = rest := by simpa using heq
    exact hreads

/-- The events of a reading are those of its next step and those that follow. -/
theorem Reads.events_eq {input rest : Bytes} {given : List (Event m.Kind)} {r' : Reading m}
    (h : r.Reads input given r' rest) : r.events input = given ++ r'.events rest := by
  cases h with
  | extend hextend => exact events_of_extend hextend rest
  | @lineEnd text rest hend hextend =>
    have hsep : m.Separates [] := fun _ hlast => absurd hlast (by simp)
    have hline := events_of_separates (r := ⟨r.state, r.run, .none⟩) rfl Bytes.isLine_nil hsep hend
    obtain ⟨b, tail, rfl⟩ := hend.exists_eq_cons
    rw [Reading.lineEnd, List.append_assoc]
    exact (events_of_not_extend (hextend b rfl) _).trans hline
  | @join rest hjoins hrest =>
    have hnone := extend_of_not_lineEnd r.continuation
      (b := Octet.backslash) (not_or.mpr ⟨by decide, by decide⟩)
    rw [events_of_not_extend hnone, events_cons rfl fun h => absurd h.1 (by decide), advance,
      if_neg (by decide), if_pos ⟨rfl, hjoins, hrest⟩]
  | @offer b rest hb hjoins =>
    rw [events_of_not_extend (extend_of_not_lineEnd _ hb), events_cons rfl fun h => hb (.inr h.1),
      advance_of_not_joins hb hjoins]

/-- What every step of a reading hands on. -/
structure IsCarried (p : Reading m → Bytes → Prop) : Prop where
  reads : ∀ {r r' : Reading m} {input rest : Bytes} {given : List (Event m.Kind)},
    p r input → r.Reads input given r' rest → p r' rest
  /-- An octet that does not go on a line continuation ends it. -/
  forget : ∀ {r : Reading m} {b : UInt8} {rest : Bytes}, p r (b :: rest) →
    r.continuation.extend b = none → p ⟨r.state, r.run, .none⟩ (b :: rest)

theorem isCarried_true : IsCarried fun (_ : Reading m) _ => True :=
  ⟨fun _ _ => trivial, fun _ _ => trivial⟩

end Reading

namespace Tokenizer

/-! ### A scan and a reading at one place -/

namespace Scan

/-- A scan stands where the reading stands, whatever the two have found so far. -/
structure StandsAt (s : Scan m) (r : Reading m) : Prop where
  state_eq : s.state = r.state
  continuation_eq : s.continuation = r.continuation

variable {s : Scan m} {r : Reading m}

theorem standsAt_interrupt (h : s.StandsAt r) : s.interrupt.StandsAt r := by
  unfold interrupt
  split
  · exact h
  · exact ⟨h.state_eq, h.continuation_eq⟩

theorem standsAt_take (h : s.StandsAt r) (hc : s.continuation = .none) (b : UInt8) :
    (s.take b).StandsAt (r.take b).2 := by
  rw [Scan.take, Reading.take, ← h.state_eq]
  cases m.step s.state b with
  | shift next => exact ⟨rfl, hc⟩
  | accept next => exact ⟨rfl, hc⟩
  | reject next => exact ⟨rfl, hc⟩

theorem standsAt_offer (h : s.StandsAt r) (hc : s.continuation = .none) (b : UInt8) :
    (s.offer b).StandsAt (r.offer b).2 := by
  rw [Scan.offer, Reading.offer, ← h.state_eq]
  cases m.isIdle s.state with
  | true => exact standsAt_take h hc b
  | false =>
    cases m.step s.state b with
    | shift next => exact standsAt_take h hc b
    | accept next => exact standsAt_take h hc b
    | reject next =>
      have hclosed : ({ s with state := next }.close : Scan m).StandsAt
          ⟨(m.finish next).2, [], .none⟩ := ⟨rfl, hc⟩
      exact standsAt_take hclosed hc b

theorem standsAt_lineEnd (h : s.StandsAt r) (hc : s.continuation = .none) (text : Bytes) :
    (s.endLine.newline text).StandsAt (r.lineEnd text).2 := by
  rw [Scan.endLine, Reading.lineEnd, Reading.beforeLineEnd, ← h.state_eq]
  by_cases hidle : m.isIdle s.state = true
  · simp only [hidle, if_true]
    exact ⟨rfl, hc⟩
  · by_cases hspan : m.spansNewline s.state = true
    · -- a token that outlives the line leaves the state as it is
      have hi := standsAt_interrupt (r := ⟨s.state, [], .none⟩) ⟨rfl, hc⟩
      simp only [hidle, hspan, if_true]
      exact ⟨congrArg m.newline hi.state_eq, hi.continuation_eq⟩
    · simp only [hidle, hspan]
      exact ⟨rfl, hc⟩

variable {p : Reading m → Bytes → Prop} {b : UInt8} {ahead : Ahead} {rest : Bytes}

/-- The scan stands in front of `rest` where a reading stands of which `p` holds. -/
def Carries (p : Reading m → Bytes → Prop) (s : Scan m) (rest : Bytes) : Prop :=
  ∃ r, s.StandsAt r ∧ p r rest

/-- Outside a line continuation, an octet keeps scan and reading at one place. -/
theorem carries_advance_none (hp : Reading.IsCarried p) (h : s.StandsAt r)
    (hc : s.continuation = .none) (hr : p r (b :: rest)) (hfits : ahead.Fits rest) :
    (s.advance b ahead).Holds (Carries p) s b ahead rest := by
  have hnone : ∀ b, r.continuation.extend b = none := fun b => by
    rw [← h.continuation_eq, hc, Continuation.extend]
  have hrjoins : r.joinsLines = s.joinsLines := by rw [joinsLines, Reading.joinsLines, h.state_eq]
  have hmoves := moves_advance hc b hfits
  generalize s.advance b ahead = next at hmoves
  cases hmoves with
  | lineEnd hb hcrlf =>
    have hend : Reading.EndsLine [b] rest := by
      refine ⟨?_, fun h hrest => hcrlf ⟨List.singleton_inj.mp h, hrest⟩⟩
      rcases hb with rfl | rfl <;> simp [Bytes.lineEnds]
    exact ⟨⟨_, standsAt_lineEnd h hc _, hp.reads hr (.lineEnd hend fun b _ => hnone b)⟩,
      kept_lineEnd s _⟩
  | crlf tail =>
    have hend : Reading.EndsLine [Octet.carriageReturn, Octet.lineFeed] tail :=
      ⟨by simp [Bytes.lineEnds], fun h => absurd h (by decide)⟩
    exact ⟨rfl, ⟨tail, rfl, _, standsAt_lineEnd h hc _,
      hp.reads hr (.lineEnd hend fun b _ => hnone b)⟩, kept_lineEnd s _⟩
  | wait => exact ⟨rfl, ⟨r, ⟨h.state_eq, h.continuation_eq⟩, hr⟩, rfl, rfl⟩
  | join hjoins hrest =>
    have hreads := Reading.Reads.join (hrjoins.trans hjoins) hrest
    refine ⟨⟨_, ?_, hp.reads hr hreads⟩, rfl, rfl⟩
    exact ⟨h.state_eq, rfl⟩
  | offer hb hjoins =>
    have hreads := Reading.Reads.offer (r := r) hb (by rwa [hrjoins])
    exact ⟨⟨_, standsAt_offer h hc b, hp.reads hr hreads⟩, kept_offer s b⟩

/-- An octet keeps scan and reading at one place. -/
theorem carries_advance (hp : Reading.IsCarried p) (h : Carries p s (b :: rest))
    (hfits : ahead.Fits rest) : (s.advance b ahead).Holds (Carries p) s b ahead rest := by
  obtain ⟨r, h, hr⟩ := h
  cases hext : s.continuation.extend b with
  | some continuation =>
    have hreads : r.Reads (b :: rest) [] _ rest := .extend (h.continuation_eq ▸ hext)
    rw [advance, hext]
    refine ⟨⟨_, ?_, hp.reads hr hreads⟩, rfl, rfl⟩
    exact ⟨h.state_eq, rfl⟩
  | none =>
    -- the continuation is over: scan and reading forget it together
    have hadv : s.advance b ahead = { s with continuation := .none }.advance b ahead := by
      rw [advance, advance, hext]
      rfl
    have hforget : { s with continuation := .none }.StandsAt ⟨r.state, r.run, .none⟩ :=
      ⟨h.state_eq, rfl⟩
    rw [hadv]
    exact carries_advance_none hp hforget rfl (hp.forget hr (h.continuation_eq ▸ hext)) hfits

theorem isKept_carries (hp : Reading.IsCarried p) :
    IsKept (m := m) (Carries p) (Carries p) where
  advance := carries_advance hp
  skip := fun ⟨r, h, hr⟩ => ⟨r, ⟨h.state_eq, h.continuation_eq⟩, hr⟩
  interrupt := fun ⟨r, h, hr⟩ => ⟨r, standsAt_interrupt h, hr⟩

end Scan

/-! ### A sequence of buffers -/

variable {t : Tokenizer m} {p : Reading m → Bytes → Prop}

/-- The tokenizer stands in front of `rest`, with a held octet still to be read, where a reading
stands of which `p` holds. -/
def Carries (p : Reading m → Bytes → Prop) (t : Tokenizer m) (rest : Bytes) : Prop :=
  ∃ run, p ⟨t.state, run, t.continuation⟩ (t.held.toList ++ rest)

/-- A scan that begins stands where the tokenizer stands. -/
theorem Carries.scan {input run : Bytes} (h : p ⟨t.state, run, t.continuation⟩ input)
    (held : Option UInt8) (length first : Nat) :
    Scan.Carries p { t with held, length, first } input :=
  ⟨⟨t.state, run, t.continuation⟩, ⟨rfl, rfl⟩, h⟩

/-- A tokenizer stands where a scan stands at the end of its buffer. -/
theorem Carries.of_ends {s : Scan m} {after : Ahead} {later : Bytes}
    (h : s.Ends (Scan.Carries p) after later) :
    s.toTokenizer.Carries p (later.drop s.skip) := by
  obtain ⟨r, hr, hp⟩ := h.done
  refine ⟨r.run, ?_⟩
  rw [hr.state_eq, hr.continuation_eq]
  exact hp

/-- Reading the held octet. -/
theorem Carries.release (hp : Reading.IsCarried p) {after : Ahead} {rest : Bytes}
    (h : t.Carries p rest) (hfits : after.Fits rest) :
    (t.release after).Ends (Scan.Carries p) after rest := by
  obtain ⟨run, h⟩ := h
  unfold Tokenizer.release
  cases hheld : t.held with
  | none => exact ⟨Carries.scan h t.held 0 0, fun _ => hheld, .inl rfl⟩
  | some b =>
    rw [hheld] at h
    exact Scan.ends_run (Scan.isKept_carries hp) hfits (Carries.scan h none 1 0) rfl rfl

/-- Reading a buffer. -/
theorem Carries.feed (hp : Reading.IsCarried p) {buffer rest : Bytes}
    (h : t.Carries p (buffer ++ rest)) : (t.feed buffer).1.Carries p rest := by
  cases buffer with
  | nil => exact h
  | cons b tail =>
    have hfits : (Ahead.octet b).Fits (b :: tail ++ rest) := rfl
    have hbefore := h.release hp hfits
    have hheld : (t.release (.octet b)).held = none := hbefore.held_eq (by simp)
    obtain ⟨run, hscan⟩ := Carries.of_ends hbefore
    rw [hheld] at hscan
    have hdrop : ((b :: tail) ++ rest).drop (t.release (.octet b)).skip
        = (b :: tail).drop (t.release (.octet b)).skip ++ rest := by
      rcases hbefore.skip_eq with hskip | ⟨-, hskip⟩ <;> rw [hskip] <;> rfl
    rw [hdrop] at hscan
    have hunknown : Ahead.unknown.Fits rest := trivial
    have hended := Scan.ends_run (Scan.isKept_carries hp) hunknown
      (Carries.scan hscan _ (b :: tail).length (t.release (.octet b)).skip) hheld rfl
    have hmore := Carries.of_ends hended
    rw [hended.skip_eq.resolve_right fun hafter => absurd hafter.1 (by simp)] at hmore
    exact hmore

/-- Reading consecutive buffers. -/
theorem Carries.feedAll (hp : Reading.IsCarried p) {buffers : List Bytes} {rest : Bytes}
    (h : t.Carries p (buffers.flatten ++ rest)) : (t.feedAll buffers).1.Carries p rest := by
  induction buffers generalizing t with
  | nil => exact h
  | cons buffer buffers ih =>
    rw [List.flatten_cons, List.append_assoc] at h
    exact ih (h.feed hp)

end Tokenizer

end MarkupFeed
