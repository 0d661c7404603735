import MarkupFeed.Proofs.Tokenizer.Reading

/-!
# What a scan makes of one octet, and of a buffer

`Scan.Moves` lists what can become of an octet outside a line continuation, in terms of what really
follows it in the input, whether or not the buffer shows it; `Scan.moves_advance` says that nothing
else can. What every octet keeps (`Scan.IsKept`) holds after a buffer, of a held octet and of what
the next buffer is to skip as well: `Scan.ends_run`. A scan takes one octet of its buffer at a time,
or a CR and the LF behind it at once (`Scan.run_cons`, `Scan.buffer_induction`).
-/

namespace MarkupFeed

variable {m : Machine}

/-- What is known to follow an octet agrees with what does follow it. -/
def Ahead.Fits : Ahead → Bytes → Prop
  | .octet b, rest => rest.head? = some b
  | .unknown, _ => True
  | .over, rest => rest = []

/-- What a scan takes to follow an octet of its buffer does follow it. -/
theorem Ahead.Fits.ahead {after : Ahead} {later : Bytes} (h : after.Fits later) (rest : Bytes) :
    (rest.head?.elim after .octet : Ahead).Fits (rest ++ later) := by
  cases rest with
  | nil => exact h
  | cons next rest => rfl

/-- What is known to follow an octet is the octet that does follow it. -/
theorem Ahead.Fits.eq_octet {ahead : Ahead} {rest : Bytes} {b : UInt8} (h : ahead.Fits rest)
    (hknown : ahead ≠ .unknown) (hhead : rest.head? = some b) : ahead = .octet b := by
  cases ahead with
  | octet next => rw [Option.some.inj (h.symm.trans hhead)]
  | unknown => exact absurd rfl hknown
  | _ =>
    have hrest : rest = [] := h
    simp [hrest] at hhead

theorem Reading.atLineEnd_iff {rest : Bytes} :
    atLineEnd rest = true
      ↔ rest.head? = some Octet.lineFeed ∨ rest.head? = some Octet.carriageReturn := by
  rw [atLineEnd, Bool.or_eq_true, beq_iff_eq, beq_iff_eq]

namespace Tokenizer.Scan

variable {s : Scan m}

/-! ### One octet -/

theorem kept_interrupt (s : Scan m) : s.interrupt.held = s.held ∧ s.interrupt.skip = s.skip := by
  unfold interrupt
  split <;> exact ⟨rfl, rfl⟩

theorem kept_take (s : Scan m) (b : UInt8) :
    (s.take b).held = s.held ∧ (s.take b).skip = s.skip := by
  unfold take
  split <;> exact ⟨rfl, rfl⟩

theorem kept_offer (s : Scan m) (b : UInt8) :
    (s.offer b).held = s.held ∧ (s.offer b).skip = s.skip := by
  unfold offer
  split
  · exact kept_take _ b
  · exact kept_take s b

theorem kept_lineEnd (s : Scan m) (text : Bytes) :
    (s.endLine.newline text).held = s.held ∧ (s.endLine.newline text).skip = s.skip := by
  unfold endLine
  split
  · exact ⟨rfl, rfl⟩
  · split
    · exact kept_interrupt s
    · exact ⟨rfl, rfl⟩

/-- How a scan goes on outside a line continuation. -/
theorem advance_of_none (hc : s.continuation = .none) (b : UInt8) (ahead : Ahead) :
    s.advance b ahead
      = if b = Octet.lineFeed then .octet (s.endLine.newline [b])
        else if b = Octet.carriageReturn then
          if ahead = .octet Octet.lineFeed then
            .afterLineFeed (s.endLine.newline [b, Octet.lineFeed])
          else if ahead = .unknown then .wait { s with held := some b }
          else .octet (s.endLine.newline [b])
        else if b = Octet.backslash && s.joinsLines then
          if ahead = .octet Octet.lineFeed ∨ ahead = .octet Octet.carriageReturn then
            .octet { s with continuation := .backslash, piece := b :: s.piece }
          else if ahead = .unknown then .wait { s with held := some b }
          else .octet (s.offer b)
        else .octet (s.offer b) := by
  cases s with
  | mk t length first piece found skip =>
    cases t with
    | mk state held continuation =>
      obtain rfl : continuation = .none := hc
      rfl

/-- What can become of an octet outside a line continuation, with what the buffer shows of the rest
of the input behind it. -/
inductive Moves (s : Scan m) : UInt8 → Ahead → Bytes → Next m → Prop
  /-- The octet is a line end. -/
  | lineEnd {b : UInt8} {ahead : Ahead} {rest : Bytes}
      (hb : b = Octet.lineFeed ∨ b = Octet.carriageReturn)
      (hcrlf : ¬(b = Octet.carriageReturn ∧ rest.head? = some Octet.lineFeed)) :
      Moves s b ahead rest (.octet (s.endLine.newline [b]))
  /-- The octet is the CR of a CR LF. -/
  | crlf (tail : Bytes) :
      Moves s Octet.carriageReturn (.octet Octet.lineFeed) (Octet.lineFeed :: tail)
        (.afterLineFeed (s.endLine.newline [Octet.carriageReturn, Octet.lineFeed]))
  /-- The octet cannot be judged yet. -/
  | wait {b : UInt8} {rest : Bytes} : Moves s b .unknown rest (.wait { s with held := some b })
  /-- The octet joins two lines. -/
  | join {ahead : Ahead} {rest : Bytes} (hjoins : s.joinsLines = true)
      (hrest : Reading.atLineEnd rest = true) :
      Moves s Octet.backslash ahead rest
        (.octet { s with continuation := .backslash, piece := Octet.backslash :: s.piece })
  /-- The octet means nothing for lines. -/
  | offer {b : UInt8} {ahead : Ahead} {rest : Bytes}
      (hb : ¬(b = Octet.lineFeed ∨ b = Octet.carriageReturn))
      (hjoins : ¬(b = Octet.backslash ∧ s.joinsLines = true ∧ Reading.atLineEnd rest = true)) :
      Moves s b ahead rest (.octet (s.offer b))

theorem moves_carriageReturn (hc : s.continuation = .none) {ahead : Ahead} {rest : Bytes}
    (hfits : ahead.Fits rest) :
    s.Moves Octet.carriageReturn ahead rest (s.advance Octet.carriageReturn ahead) := by
  rw [advance_of_none hc, if_neg (by decide), if_pos rfl]
  by_cases hlf : ahead = .octet Octet.lineFeed
  · rw [if_pos hlf]
    rw [hlf] at hfits ⊢
    obtain ⟨tail, rfl⟩ : ∃ tail, rest = Octet.lineFeed :: tail := List.head?_eq_some_iff.1 hfits
    exact .crlf tail
  · rw [if_neg hlf]
    by_cases hunknown : ahead = .unknown
    · rw [if_pos hunknown, hunknown]
      exact .wait
    · rw [if_neg hunknown]
      exact .lineEnd (.inr rfl) fun h => hlf (hfits.eq_octet hunknown h.2)

theorem moves_backslash (hc : s.continuation = .none) (hjoins : s.joinsLines = true)
    {ahead : Ahead} {rest : Bytes} (hfits : ahead.Fits rest) :
    s.Moves Octet.backslash ahead rest (s.advance Octet.backslash ahead) := by
  rw [advance_of_none hc, if_neg (by decide), if_neg (by decide), hjoins, if_pos (by decide)]
  by_cases hend : ahead = .octet Octet.lineFeed ∨ ahead = .octet Octet.carriageReturn
  · rw [if_pos hend]
    refine .join hjoins (Reading.atLineEnd_iff.mpr ?_)
    rcases hend with rfl | rfl
    · exact .inl hfits
    · exact .inr hfits
  · rw [if_neg hend]
    by_cases hunknown : ahead = .unknown
    · rw [if_pos hunknown, hunknown]
      exact .wait
    · rw [if_neg hunknown]
      refine .offer (by decide) fun h => ?_
      rcases Reading.atLineEnd_iff.mp h.2.2 with hlf | hcr
      · exact hend (.inl (hfits.eq_octet hunknown hlf))
      · exact hend (.inr (hfits.eq_octet hunknown hcr))

/-- Nothing else becomes of an octet. -/
theorem moves_advance (hc : s.continuation = .none) (b : UInt8) {ahead : Ahead} {rest : Bytes}
    (hfits : ahead.Fits rest) : s.Moves b ahead rest (s.advance b ahead) := by
  by_cases hcr : b = Octet.carriageReturn
  · exact hcr ▸ moves_carriageReturn hc hfits
  by_cases hback : b = Octet.backslash ∧ s.joinsLines = true
  · exact hback.1 ▸ moves_backslash hc hback.2 hfits
  rw [advance_of_none hc]
  by_cases hlf : b = Octet.lineFeed
  · rw [if_pos hlf]
    exact .lineEnd (.inl hlf) fun h => hcr h.1
  · rw [if_neg hlf, if_neg hcr, if_neg (by simpa using hback)]
    exact .offer (not_or.mpr ⟨hlf, hcr⟩) fun h => hback ⟨h.1, h.2.1⟩

/-! ### One buffer -/

/-- After an octet, `kept` ties the scan to what is left to read: the rest, what follows the LF in
front of the rest, or the octet itself, which is held back. -/
def Next.Holds (next : Next m) (kept : Scan m → Bytes → Prop) (before : Scan m) (b : UInt8)
    (ahead : Ahead) (rest : Bytes) : Prop :=
  match next with
  | .octet s => kept s rest ∧ s.held = before.held ∧ s.skip = before.skip
  | .afterLineFeed s =>
    ahead = .octet Octet.lineFeed ∧ (∃ tail, rest = Octet.lineFeed :: tail ∧ kept s tail)
      ∧ s.held = before.held ∧ s.skip = before.skip
  | .wait s => ahead = .unknown ∧ kept s (b :: rest) ∧ s.held = some b ∧ s.skip = before.skip

/-- Every octet keeps `kept`, and the end of a buffer makes `done` of it. -/
structure IsKept (kept done : Scan m → Bytes → Prop) : Prop where
  advance : ∀ {s : Scan m} {b : UInt8} {ahead : Ahead} {rest : Bytes}, kept s (b :: rest) →
    ahead.Fits rest → (s.advance b ahead).Holds kept s b ahead rest
  skip : ∀ {s : Scan m} {rest : Bytes}, kept s rest → kept { s with skip := 1 } rest
  interrupt : ∀ {s : Scan m} {rest : Bytes}, kept s rest → done s.interrupt rest

/-- How a scan stands at the end of its buffer. What it has still to read is a held octet and what
follows the buffer, the first octet of which may have been read too. -/
structure Ends (s : Scan m) (done : Scan m → Bytes → Prop) (after : Ahead) (later : Bytes) :
    Prop where
  done : done s (s.held.toList ++ later.drop s.skip)
  held_eq : after ≠ .unknown → s.held = none
  skip_eq : s.skip = 0 ∨ after = .octet Octet.lineFeed ∧ s.skip = 1

/-- What every octet keeps holds at the end of a buffer. -/
theorem ends_run {kept done : Scan m → Bytes → Prop} (hk : IsKept kept done) {after : Ahead}
    {buffer later : Bytes} (hfits : after.Fits later) (h : kept s (buffer ++ later))
    (hheld : s.held = none) (hskip : s.skip = 0) :
    (Scan.run after buffer s).Ends done after later := by
  have hahead := hfits.ahead
  fun_induction Scan.run after buffer s with
  | case1 s =>
    -- the end of the buffer
    obtain ⟨hheld', hskip'⟩ := kept_interrupt s
    rw [hheld] at hheld'
    rw [hskip] at hskip'
    refine ⟨?_, fun _ => hheld', .inl hskip'⟩
    rw [hheld', hskip']
    exact hk.interrupt h
  | case2 b rest s s' hadv ih =>
    have hnext := hk.advance h (hahead rest)
    rw [hadv] at hnext
    obtain ⟨hl, hheld', hskip'⟩ := hnext
    exact ih hl (hheld'.trans hheld) (hskip'.trans hskip)
  | case3 b rest s s' hadv =>
    -- only the last octet of a buffer is held back, when nothing is known of what follows
    have hnext := hk.advance h (hahead rest)
    rw [hadv] at hnext
    obtain ⟨hunknown, hl, hheld', hskip'⟩ := hnext
    obtain ⟨rfl, rfl⟩ : rest = [] ∧ after = .unknown := by
      cases rest with
      | nil => exact ⟨rfl, hunknown⟩
      | cons next rest => exact absurd hunknown (by simp)
    obtain ⟨hheld'', hskip''⟩ := kept_interrupt s'
    rw [hheld'] at hheld''
    rw [hskip', hskip] at hskip''
    refine ⟨?_, fun hne => absurd rfl hne, .inl hskip''⟩
    rw [hheld'', hskip'']
    exact hk.interrupt hl
  | case4 b s s' hadv =>
    have hnext := hk.advance h (hahead [])
    rw [hadv] at hnext
    obtain ⟨hafter, ⟨tail, hlater, hl⟩, hheld', hskip'⟩ := hnext
    -- the LF is the first octet of what follows the buffer
    obtain ⟨hheld'', hskip''⟩ := kept_interrupt ({ s' with skip := 1 } : Scan m)
    rw [show ({ s' with skip := 1 } : Scan m).held = none from hheld'.trans hheld] at hheld''
    refine ⟨?_, fun _ => hheld'', .inr ⟨hafter, hskip''⟩⟩
    rw [hheld'', hskip'', show later = Octet.lineFeed :: tail from hlater]
    exact hk.interrupt (hk.skip hl)
  | case5 b s s' x rest hadv ih =>
    -- the LF stands in the buffer, and is read together with the CR
    have hnext := hk.advance h (hahead (x :: rest))
    rw [hadv] at hnext
    obtain ⟨-, ⟨tail, hrest, hl⟩, hheld', hskip'⟩ := hnext
    rw [show tail = rest ++ later from (List.cons.inj hrest).2.symm] at hl
    exact ih hl (hheld'.trans hheld) (hskip'.trans hskip)

/-! ### The rest of a buffer -/

/-- The scan that goes on after an octet. -/
def Next.scan : Next m → Scan m
  | .octet s | .afterLineFeed s | .wait s => s

/-- The scan of the rest of a buffer. -/
def Next.resume (after : Ahead) (rest : Bytes) : Next m → Scan m
  | .octet s => run after rest s
  | .wait s => s.interrupt
  | .afterLineFeed s =>
    match rest with
    | [] => { s with skip := 1 }.interrupt
    | _ :: rest => run after rest s

theorem run_cons (after : Ahead) (b : UInt8) (rest : Bytes) (s : Scan m) :
    Scan.run after (b :: rest) s
      = (s.advance b (rest.head?.elim after .octet)).resume after rest := by
  rw [run]
  cases s.advance b (rest.head?.elim after .octet) <;> rfl

/-- Induction over a buffer of which one octet is taken, or two at once. -/
theorem buffer_induction {motive : Bytes → Prop} (nil : motive [])
    (cons : ∀ b rest, motive rest → motive rest.tail → motive (b :: rest)) (buffer : Bytes) :
    motive buffer := by
  have hboth : motive buffer ∧ motive buffer.tail := by
    induction buffer with
    | nil => exact ⟨nil, nil⟩
    | cons b rest ih => exact ⟨cons b rest ih.1 ih.2, ih.1⟩
  exact hboth.1

end Tokenizer.Scan

end MarkupFeed
