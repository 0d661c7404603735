import MarkupFeed.Proofs.Tokenizer.Chunking
import MarkupFeed.Proofs.Tokenizer.Standing

/-!
# The state a tokenizer is left in at the end of its input

`Reading.last` goes through an input as `Reading.events` does and keeps the state only. No step of
the reading changes what it comes to (`Reading.isCarried_last`), hence a tokenizer comes to the
state of the reading, whatever buffers the input comes in, and holds nothing back:
`Tokenizer.finish_fst`. Where lines are not joined the state goes from line to line
(`Reading.last_of_separates`).
-/

namespace MarkupFeed

variable {m : Machine}

namespace Reading

/-- The state at the end of an input, with the token in progress closed. -/
def last : Reading m → Bytes → m.State
  | r, [] => if m.isIdle r.state then r.state else (m.finish r.state).2
  | r, b :: rest =>
    match r.continuation.extend b with
    | some continuation => last ⟨r.state, r.run ++ [b], continuation⟩ rest
    | none =>
      if b = Octet.carriageReturn ∧ rest.head? = some Octet.lineFeed then
        match rest with
        | [] => r.state
        | _ :: tail => last (r.lineEnd [b, Octet.lineFeed]).2 tail
      else last (r.advance b rest).2 rest

/-! ### Equations -/

theorem last_of_extend {r : Reading m} {b : UInt8} {continuation : Continuation}
    (h : r.continuation.extend b = some continuation) (rest : Bytes) :
    r.last (b :: rest) = last ⟨r.state, r.run ++ [b], continuation⟩ rest := by
  rw [last.eq_def]
  simp only [h]

theorem last_of_not_extend {r : Reading m} {b : UInt8} (h : r.continuation.extend b = none)
    (rest : Bytes) : r.last (b :: rest) = last ⟨r.state, r.run, .none⟩ (b :: rest) := by
  rw [last.eq_def, last.eq_def]
  simp only [h]
  rfl

theorem last_crlf {r : Reading m} (h : r.continuation = .none) (rest : Bytes) :
    r.last (Octet.carriageReturn :: Octet.lineFeed :: rest)
      = (r.lineEnd [Octet.carriageReturn, Octet.lineFeed]).2.last rest := by
  rw [last.eq_def]
  simp [h, Continuation.extend]

theorem last_cons {r : Reading m} {b : UInt8} {rest : Bytes} (h : r.continuation = .none)
    (hb : ¬(b = Octet.carriageReturn ∧ rest.head? = some Octet.lineFeed)) :
    r.last (b :: rest) = (r.advance b rest).2.last rest := by
  rw [last.eq_def]
  simp only [h, Continuation.extend, if_neg hb]

/-! ### Line by line -/

/-- A line with its end, and what follows. -/
theorem last_of_separates {r : Reading m} (hr : r.continuation = .none) {text : Bytes}
    (htext : text.IsLine) (hsep : m.Separates text) {ending rest : Bytes}
    (hend : EndsLine ending rest) :
    r.last (text ++ (ending ++ rest)) = last ⟨m.newline (r.line text).2, [], .none⟩ rest := by
  induction text generalizing r with
  | nil =>
    obtain ⟨hending, hrest⟩ := hend
    simp only [Bytes.lineEnds, List.mem_cons, List.not_mem_nil, or_false] at hending
    rcases hending with rfl | rfl | rfl
    · have hlf : ¬(Octet.lineFeed = Octet.carriageReturn ∧ rest.head? = some Octet.lineFeed) :=
        fun h => absurd h.1 (by decide)
      show r.last (Octet.lineFeed :: rest) = _
      rw [last_cons hr hlf, advance, if_pos (.inl rfl), lineEnd, line]
    · show r.last (Octet.carriageReturn :: rest) = _
      rw [last_cons hr fun h => hrest rfl h.2, advance, if_pos (.inr rfl), lineEnd, line]
    · show r.last (Octet.carriageReturn :: Octet.lineFeed :: rest) = _
      rw [last_crlf hr, lineEnd, line]
  | cons b text ih =>
    rw [Bytes.IsLine, List.forall_mem_cons] at htext
    obtain ⟨hb, htext⟩ := htext
    rw [List.cons_append, last_cons hr fun h => hb.2 h.1,
      advance_of_isLine r hb (atLineEnd_of_separates htext hsep _),
      ih (continuation_offer r b) htext hsep.of_cons, line]

/-- A last line without an end. -/
theorem last_lastLine (hspans : ∀ s, m.spansNewline s = false) {r : Reading m}
    (hr : r.continuation = .none) {text : Bytes} (htext : text.IsLine) :
    r.last text = (r.line text).2 := by
  induction text generalizing r with
  | nil =>
    rw [last, line, beforeLineEnd, hspans]
    split <;> rfl
  | cons b text ih =>
    rw [Bytes.IsLine, List.forall_mem_cons] at htext
    obtain ⟨hb, htext⟩ := htext
    rw [last_cons hr fun h => hb.2 h.1,
      advance_of_isLine r hb fun _ _ => atLineEnd_of_isLine htext,
      ih (continuation_offer r b) htext, line]

/-! ### Step by step -/

/-- No step of a reading changes the state it comes to. -/
theorem isCarried_last (final : m.State) : IsCarried fun r rest => r.last rest = final where
  reads {r r' input rest given} hlast h := by
    rw [← hlast]
    cases h with
    | extend hextend => rw [last_of_extend hextend]
    | @lineEnd text rest hend hextend =>
      have hsep : m.Separates [] := fun _ hnone => absurd hnone (by simp)
      have hline := last_of_separates (r := ⟨r.state, r.run, .none⟩) rfl Bytes.isLine_nil hsep hend
      obtain ⟨b, tail, rfl⟩ := hend.exists_eq_cons
      exact (hline.symm.trans (last_of_not_extend (hextend b rfl) _).symm)
    | @join rest hjoins hrest =>
      have hnone := extend_of_not_lineEnd r.continuation
        (b := Octet.backslash) (not_or.mpr ⟨by decide, by decide⟩)
      rw [last_of_not_extend hnone, last_cons rfl fun h => absurd h.1 (by decide), advance,
        if_neg (by decide), if_pos ⟨rfl, hjoins, hrest⟩]
    | @offer b rest hb hjoins =>
      rw [last_of_not_extend (extend_of_not_lineEnd _ hb), last_cons rfl fun h => hb (.inr h.1),
        advance_of_not_joins hb hjoins]
  forget hlast hextend := by rwa [last_of_not_extend hextend] at hlast

end Reading

namespace Tokenizer

/-! ### Coming to a state -/

/-- The scan stands in front of `rest`, and comes to the state `final` with it. -/
def Scan.LeadsTo (s : Scan m) (final : m.State) (rest : Bytes) : Prop :=
  ∃ r, s.StandsAt r ∧ r.last rest = final

variable {t : Tokenizer m} {final : m.State}

/-- The tokenizer stands in front of `rest`, and comes to the state `final` with it. -/
def LeadsTo (t : Tokenizer m) (final : m.State) (rest : Bytes) : Prop :=
  ∃ run, Reading.last ⟨t.state, run, t.continuation⟩ (t.held.toList ++ rest) = final

/-- Reading the held octet. -/
theorem LeadsTo.release {after : Ahead} {rest : Bytes} (h : t.LeadsTo final rest)
    (hfits : after.Fits rest) : (t.release after).Ends (·.LeadsTo final) after rest :=
  Carries.release (Reading.isCarried_last final) h hfits

/-- Reading a buffer. -/
theorem LeadsTo.feed {buffer rest : Bytes} (h : t.LeadsTo final (buffer ++ rest)) :
    (t.feed buffer).1.LeadsTo final rest :=
  Carries.feed (Reading.isCarried_last final) h

/-- At the end of the input the tokenizer is at its last state, and holds nothing back. -/
theorem LeadsTo.flush (h : t.LeadsTo final []) : t.flush.1 = ⟨final, none, .none⟩ := by
  have hfits : Ahead.over.Fits [] := rfl
  have hbefore := h.release hfits
  have hheld : (t.release .over).held = none := hbefore.held_eq (by simp)
  obtain ⟨run, hlast⟩ := Carries.of_ends hbefore
  rw [hheld, List.drop_nil] at hlast
  rw [← hlast]
  unfold Tokenizer.flush
  show (if m.isIdle (t.release .over).state then _ else _ : Tokenizer m × _).1 = _
  show _ = (⟨if m.isIdle (t.release .over).state then (t.release .over).state
    else (m.finish (t.release .over).state).2, none, .none⟩ : Tokenizer m)
  split
  · rw [← hheld]
  · rw [← hheld]

theorem finish_cons_fst (t : Tokenizer m) (buffer : Bytes) (buffers : List Bytes) :
    (t.finish (buffer :: buffers)).1 = ((t.feed buffer).1.finish buffers).1 := by
  simp [Tokenizer.finish, feedAll]

/-- The tokenizer that an input leaves behind, whatever buffers the input comes in. -/
theorem finish_fst (t : Tokenizer m) (buffers : List Bytes) :
    (t.finish buffers).1
      = ⟨Reading.last ⟨t.state, [], t.continuation⟩ (t.held.toList ++ buffers.flatten),
          none, .none⟩ := by
  have h : t.LeadsTo _ buffers.flatten := ⟨[], rfl⟩
  revert h
  generalize Reading.last _ _ = final
  intro h
  induction buffers generalizing t with
  | nil => exact h.flush
  | cons buffer buffers ih =>
    rw [finish_cons_fst]
    exact ih _ h.feed

end Tokenizer

end MarkupFeed
