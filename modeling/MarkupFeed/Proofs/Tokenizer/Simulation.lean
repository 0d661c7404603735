import MarkupFeed.Proofs.Tokenizer.Scan

/-!
# Simulation of one machine by another

Two machines may keep different states and still report the same. `Machine.Simulation r m` relates
the states of `r` to those of `m` they show, and asks for what a tokenizer looks at: whether a
token is in progress, its kind, and what is made of an octet, of a line end and of the end of a
token. After an octet that ends its token a machine is only asked to close it, so no more than
that is owed there (`Machine.ClosesAlike`).

The relation carries over to scans (`Simulation.Scans`) one function at a time, up to a buffer
(`Scans.run`), and to tokenizers between two calls: `Tokenizers.feed` and `Tokenizers.flush` say
that both report the same, and are related again.
-/

namespace MarkupFeed

/-- Two steps of one sort: a token that goes on leads to states related by `shows`, one that is
to be closed to states related by `closes`. -/
inductive Step.Related {σ τ : Type} (shows closes : σ → τ → Prop) : Step σ → Step τ → Prop where
  | shift {s : σ} {q : τ} (h : shows s q) : Related shows closes (.shift s) (.shift q)
  | accept {s : σ} {q : τ} (h : closes s q) : Related shows closes (.accept s) (.accept q)
  | reject {s : σ} {q : τ} (h : closes s q) : Related shows closes (.reject s) (.reject q)

namespace Step.Related

variable {σ τ : Type} {shows closes closes' : σ → τ → Prop} {x x' : Step σ} {y y' : Step τ}

theorem imp (himp : ∀ {s q}, closes s q → closes' s q) (h : Related shows closes x y) :
    Related shows closes' x y := by
  cases h with
  | shift h => exact .shift h
  | accept h => exact .accept (himp h)
  | reject h => exact .reject (himp h)

/-- Both steps depend on one condition. -/
theorem ite {c : Prop} [Decidable c] (hthen : c → Related shows closes x y)
    (helse : ¬c → Related shows closes x' y') :
    Related shows closes (if c then x else x') (if c then y else y') := by
  by_cases hc : c
  · rw [if_pos hc, if_pos hc]
    exact hthen hc
  · rw [if_neg hc, if_neg hc]
    exact helse hc

end Step.Related

/-! ### Kinds by another name -/

section Map

variable {κ μ : Type} {name : κ → μ}

/-- The event with another name for its kind. -/
def Event.map (name : κ → μ) : Event κ → Event μ
  | token kind text fragment => token (name kind) text fragment
  | newline text => newline text

/-- The report with another name for the kind. -/
def Report.map (name : κ → μ) (report : Report κ) : Report μ :=
  ⟨report.event.map name, report.first, report.length⟩

theorem Event.map_injective (h : Function.Injective name) : Function.Injective (map name) := by
  intro event event' heq
  cases event with
  | token kind text fragment =>
    cases event' with
    | token kind' text' fragment' =>
      obtain ⟨hkind, rfl, rfl⟩ := Event.token.inj heq
      rw [h hkind]
    | newline text' => cases heq
  | newline text =>
    cases event' with
    | token kind' text' fragment' => cases heq
    | newline text' => exact congrArg newline (Event.newline.inj heq)

theorem Report.map_injective (h : Function.Injective name) : Function.Injective (map name) := by
  rintro ⟨event, first, length⟩ ⟨event', first', length'⟩ heq
  obtain ⟨hevent, hfirst, hlength⟩ := Report.mk.inj heq
  rw [Report.mk.injEq]
  exact ⟨Event.map_injective h hevent, hfirst, hlength⟩

end Map

/-! ### The relation of the states -/

variable {r m : Machine}

/-- The end of the token is the same token to both machines, and leaves related states. -/
def Machine.ClosesAlike (name : r.Kind → m.Kind) (shows : r.State → m.State → Prop) (s : r.State)
    (q : m.State) : Prop :=
  name (r.finish s).1 = (m.finish q).1 ∧ shows (r.finish s).2 (m.finish q).2

/-- The machine `r` does what `m` does. -/
structure Machine.Simulation (r m : Machine) where
  /-- What the kinds of `r` are called with `m`. -/
  name : r.Kind → m.Kind
  /-- The states of `r` that stand for a state of `m`. -/
  Shows : r.State → m.State → Prop
  name_injective : Function.Injective name
  name_error : name TokenKind.error = TokenKind.error
  start : Shows r.start m.start
  isIdle_eq : ∀ {s q}, Shows s q → r.isIdle s = m.isIdle q
  kind_eq : ∀ {s q}, Shows s q → name (r.kind s) = m.kind q
  step : ∀ {s q}, Shows s q → ∀ b,
    Step.Related Shows (ClosesAlike name Shows) (r.step s b) (m.step q b)
  finish : ∀ {s q}, Shows s q → ClosesAlike name Shows s q
  newline : ∀ {s q}, Shows s q → Shows (r.newline s) (m.newline q)
  spansNewline_eq : ∀ {s q}, Shows s q → r.spansNewline s = m.spansNewline q
  isEscaping_eq : ∀ {s q}, Shows s q → r.isEscaping s = m.isEscaping q
  continuesLines_eq : r.continuesLines = m.continuesLines

namespace Machine.Simulation

open Tokenizer

/-- Every machine does what it does itself. -/
protected def refl (m : Machine) : Simulation m m where
  name := id
  Shows := Eq
  name_injective := Function.injective_id
  name_error := rfl
  start := rfl
  isIdle_eq h := congrArg m.isIdle h
  kind_eq h := congrArg m.kind h
  step h b := by
    subst h
    cases m.step _ b with
    | shift next => exact .shift rfl
    | accept next => exact .accept ⟨rfl, rfl⟩
    | reject next => exact .reject ⟨rfl, rfl⟩
  finish h := ⟨congrArg (fun s => (m.finish s).1) h, congrArg (fun s => (m.finish s).2) h⟩
  newline h := congrArg m.newline h
  spansNewline_eq h := congrArg m.spansNewline h
  isEscaping_eq h := congrArg m.isEscaping h
  continuesLines_eq := rfl

/-! ### Scans -/

/-- The scans differ in their states, which are related, and in the names of the kinds. -/
inductive Scans (S : Simulation r m) (related : r.State → m.State → Prop) :
    Scan r → Scan m → Prop where
  | intro {s : r.State} {q : m.State} (h : related s q) (held : Option UInt8)
      (continuation : Continuation) (length first : Nat) (piece : Bytes)
      (found : List (Report r.Kind)) (skip : Nat) :
      Scans S related ⟨⟨s, held, continuation⟩, length, first, piece, found, skip⟩
        ⟨⟨q, held, continuation⟩, length, first, piece, found.map (Report.map S.name), skip⟩

/-- The scans go on in the same way. -/
inductive Nexts (S : Simulation r m) : Scan.Next r → Scan.Next m → Prop where
  | octet {s : Scan r} {u : Scan m} (h : S.Scans S.Shows s u) : Nexts S (.octet s) (.octet u)
  | afterLineFeed {s : Scan r} {u : Scan m} (h : S.Scans S.Shows s u) :
      Nexts S (.afterLineFeed s) (.afterLineFeed u)
  | wait {s : Scan r} {u : Scan m} (h : S.Scans S.Shows s u) : Nexts S (.wait s) (.wait u)

variable {S : Simulation r m} {s : Scan r} {u : Scan m}

namespace Scans

theorem isIdle_eq (h : S.Scans S.Shows s u) : r.isIdle s.state = m.isIdle u.state := by
  cases h with
  | intro h => exact S.isIdle_eq h

theorem toFinish (h : S.Scans S.Shows s u) : S.Scans (ClosesAlike S.name S.Shows) s u := by
  cases h with
  | intro h => exact .intro (S.finish h) ..

theorem emit (h : S.Scans S.Shows s u) {kind : r.Kind} {kind' : m.Kind}
    (hkind : S.name kind = kind') (fragment : Bool) :
    S.Scans S.Shows (s.emit kind fragment) (u.emit kind' fragment) := by
  subst hkind
  cases h with
  | intro h => exact .intro h ..

theorem close (h : S.Scans (ClosesAlike S.name S.Shows) s u) :
    S.Scans S.Shows s.close u.close := by
  cases h with
  | intro h held continuation length first piece found skip =>
    exact emit (.intro h.2 held continuation length first piece found skip) h.1 false

theorem interrupt (h : S.Scans S.Shows s u) : S.Scans S.Shows s.interrupt u.interrupt := by
  have hkind : S.name (r.kind s.state) = m.kind u.state := by
    cases h with
    | intro h => exact S.kind_eq h
  have hpiece : s.piece = u.piece := by
    cases h with
    | intro h => rfl
  unfold Scan.interrupt
  rw [h.isIdle_eq, hpiece]
  split
  · exact h
  · exact h.emit hkind true

/-- Reading an octet either goes on with the token or closes it, in both. -/
theorem take (h : S.Scans S.Shows s u) (b : UInt8) : S.Scans S.Shows (s.take b) (u.take b) := by
  cases h with
  | @intro state state' h held continuation length first piece found skip =>
    have hstep := S.step h b
    simp only [Scan.take]
    generalize r.step state b = step, m.step state' b = step' at hstep
    cases hstep with
    | shift h => exact .intro h ..
    | accept h => exact close (.intro h ..)
    | reject h =>
      exact emit (.intro h.2 held continuation length _ [b] found skip) S.name_error false

theorem offer (h : S.Scans S.Shows s u) (b : UInt8) :
    S.Scans S.Shows (s.offer b) (u.offer b) := by
  have htake := h.take b
  cases h with
  | @intro state state' h held continuation length first piece found skip =>
    have hstep := S.step h b
    simp only [Scan.offer, S.isIdle_eq h]
    generalize r.step state b = step, m.step state' b = step' at hstep
    cases m.isIdle state' with
    | true => exact htake
    | false =>
      cases hstep with
      | shift _ => exact htake
      | accept _ => exact htake
      | reject h => exact (close (.intro h ..)).take b

theorem endLine (h : S.Scans S.Shows s u) : S.Scans S.Shows s.endLine u.endLine := by
  have hspans : r.spansNewline s.state = m.spansNewline u.state := by
    cases h with
    | intro h => exact S.spansNewline_eq h
  unfold Scan.endLine
  rw [h.isIdle_eq, hspans]
  split
  · exact h
  · split
    · exact h.interrupt
    · exact h.toFinish.close

theorem newline (h : S.Scans S.Shows s u) (text : Bytes) :
    S.Scans S.Shows (s.newline text) (u.newline text) := by
  cases h with
  | @intro state state' h held continuation length first piece found skip =>
    unfold Scan.newline
    dsimp only
    split
    · exact .intro (S.newline h) ..
    · exact .intro (S.newline h) ..

theorem joinsLines_eq (h : S.Scans S.Shows s u) : s.joinsLines = u.joinsLines := by
  cases h with
  | intro h =>
    simp only [Scan.joinsLines, S.continuesLines_eq, S.isIdle_eq h, S.isEscaping_eq h]

/-- The octet is read alike outside a line continuation. -/
theorem advance_of_none (h : S.Scans S.Shows s u) (hs : s.continuation = .none)
    (hu : u.continuation = .none) (b : UInt8) (ahead : Ahead) :
    S.Nexts (s.advance b ahead) (u.advance b ahead) := by
  have hwait : S.Scans S.Shows { s with held := some b } { u with held := some b } := by
    cases h with
    | intro h => exact .intro h ..
  have hjoin : S.Scans S.Shows { s with continuation := .backslash, piece := b :: s.piece }
      { u with continuation := .backslash, piece := b :: u.piece } := by
    cases h with
    | intro h => exact .intro h ..
  rw [Scan.advance_of_none hs, Scan.advance_of_none hu, h.joinsLines_eq]
  split
  · exact .octet (h.endLine.newline _)
  split
  · split
    · exact .afterLineFeed (h.endLine.newline _)
    split
    · exact .wait hwait
    · exact .octet (h.endLine.newline _)
  split
  · split
    · exact .octet hjoin
    split
    · exact .wait hwait
    · exact .octet (h.offer b)
  · exact .octet (h.offer b)

theorem advance (h : S.Scans S.Shows s u) (b : UInt8) (ahead : Ahead) :
    S.Nexts (s.advance b ahead) (u.advance b ahead) := by
  cases h with
  | @intro state state' h held continuation length first piece found skip =>
    cases hextend : continuation.extend b with
    | some next =>
      simp only [Scan.advance, hextend]
      exact .octet (.intro h ..)
    | none =>
      have hnone := advance_of_none (.intro h held .none length first piece found skip) rfl rfl b
        ahead
      rw [Scan.advance, Scan.advance, hextend]
      exact hnone

theorem run (h : S.Scans S.Shows s u) (after : Ahead) (buffer : Bytes) :
    S.Scans S.Shows (Scan.run after buffer s) (Scan.run after buffer u) := by
  induction buffer using Scan.buffer_induction generalizing s u with
  | nil =>
    rw [Scan.run, Scan.run]
    exact h.interrupt
  | cons b rest ih ihTail =>
    have hnext := h.advance b (rest.head?.elim after .octet)
    rw [Scan.run_cons, Scan.run_cons]
    generalize s.advance b (rest.head?.elim after .octet) = next,
      u.advance b (rest.head?.elim after .octet) = next' at hnext ⊢
    cases hnext with
    | octet h => exact ih h
    | wait h => exact h.interrupt
    | afterLineFeed h =>
      cases rest with
      | nil =>
        -- the LF is left to the next buffer
        cases h with
        | intro h => exact interrupt (.intro h ..)
      | cons x rest => exact ihTail h

end Scans

/-! ### Calls -/

/-- The tokenizers differ in their states, which are related. -/
structure Tokenizers (S : Simulation r m) (t : Tokenizer r) (v : Tokenizer m) : Prop where
  state : S.Shows t.state v.state
  held : t.held = v.held
  continuation : t.continuation = v.continuation

theorem Scans.toTokenizers (h : S.Scans S.Shows s u) :
    S.Tokenizers s.toTokenizer u.toTokenizer := by
  cases h with
  | intro h => exact ⟨h, rfl, rfl⟩

theorem Scans.found_eq (h : S.Scans S.Shows s u) :
    u.found = s.found.map (Report.map S.name) := by
  cases h with
  | intro h => rfl

theorem Scans.skip_eq (h : S.Scans S.Shows s u) : u.skip = s.skip := by
  cases h with
  | intro h => rfl

namespace Tokenizers

variable {t : Tokenizer r} {v : Tokenizer m}

theorem fresh (S : Simulation r m) : S.Tokenizers (Tokenizer.fresh r) (Tokenizer.fresh m) :=
  ⟨S.start, rfl, rfl⟩

theorem isPending_eq (h : S.Tokenizers t v) : t.isPending = v.isPending := by
  rw [isPending, isPending, h.held, S.isIdle_eq h.state]

theorem scan (h : S.Tokenizers t v) (buffer : Bytes) (start : Nat) (after : Ahead) :
    S.Scans S.Shows (t.scan buffer start after) (v.scan buffer start after) := by
  obtain ⟨state, held, continuation⟩ := t
  obtain ⟨state', held', continuation'⟩ := v
  obtain ⟨hstate, rfl, rfl⟩ := h
  exact Scans.run (.intro hstate held continuation buffer.length start [] [] 0) after _

theorem release (h : S.Tokenizers t v) (after : Ahead) :
    S.Scans S.Shows (t.release after) (v.release after) := by
  obtain ⟨state, held, continuation⟩ := t
  obtain ⟨state', held', continuation'⟩ := v
  obtain ⟨hstate, rfl, rfl⟩ := h
  cases held with
  | none => exact .intro hstate none continuation 0 0 [] [] 0
  | some b =>
    have hopen : S.Tokenizers ⟨state, none, continuation⟩ ⟨state', none, continuation⟩ :=
      ⟨hstate, rfl, rfl⟩
    exact hopen.scan [b] 0 after

/-- Both answer a buffer with the same reports. -/
theorem feed (h : S.Tokenizers t v) (buffer : Bytes) :
    (v.feed buffer).2 = (t.feed buffer).2.map (Report.map S.name)
      ∧ S.Tokenizers (t.feed buffer).1 (v.feed buffer).1 := by
  cases buffer with
  | nil => exact ⟨rfl, h⟩
  | cons b rest =>
    have hbefore := h.release (.octet b)
    have hscanned := hbefore.toTokenizers.scan (b :: rest) (t.release (.octet b)).skip .unknown
    simp only [Tokenizer.feed, hbefore.skip_eq]
    refine ⟨?_, hscanned.toTokenizers⟩
    rw [hbefore.found_eq, hscanned.found_eq, List.map_append, List.map_reverse, List.map_reverse]

/-- Both answer the end of the input with the same reports. -/
theorem flush (h : S.Tokenizers t v) :
    v.flush.2 = t.flush.2.map (Report.map S.name) ∧ S.Tokenizers t.flush.1 v.flush.1 := by
  have hbefore := h.release .over
  have hstate : S.Shows (t.release .over).state (v.release .over).state :=
    hbefore.toTokenizers.state
  have hheld : (t.release .over).held = (v.release .over).held := hbefore.toTokenizers.held
  have hfinish := S.finish hstate
  simp only [Tokenizer.flush, S.isIdle_eq hstate]
  split
  · refine ⟨?_, hstate, hheld, rfl⟩
    rw [hbefore.found_eq, List.map_reverse]
  · refine ⟨?_, hfinish.2, hheld, rfl⟩
    rw [hbefore.found_eq, ← hfinish.1, List.map_append, List.map_reverse]
    rfl

end Tokenizers

end Machine.Simulation

end MarkupFeed
