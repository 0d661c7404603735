import MarkupFeed.Markup.Decorator
import MarkupFeed.Proofs.Format.Fragments
import MarkupFeed.Proofs.Registers.Formats

/-!
# Between tokens a tokenizer is a fresh one

A tokenizer may be fed and flushed in any order, and be used again after a flush
(`Tokenizer.calls`). What is left in it when nothing is pending is the state of the machine between
tokens and the place in a line continuation. The latter is kept to tokens by every call
(`Tokenizer.JoinsInTokens.calls`); the former says nothing if the machine has one such state only
(`Machine.ForgetsTokens`), which is so for exactly the formats that read all of their input in one
way (`Format.forgetsTokens_iff`).

On registers there is more left between tokens than that, such as the delimiter of the last
literal. It cannot be told from what a fresh tokenizer holds, since either shows the one state the
machine has there (`Simulation.Tokenizers.calls_eq`). The main result, `Format.calls_eq_fresh`, is
about the machines on registers, and ties what they report to the machines of the formats.
-/

namespace MarkupFeed

variable {m : Machine}

/-- Between tokens the machine remembers nothing of the tokens before. -/
def Machine.ForgetsTokens (m : Machine) : Prop := ∀ s, m.isIdle s = true → s = m.start

namespace Tokenizer

/-! ### Calls -/

/-- What a tokenizer can be asked to do. -/
inductive Call where
  /-- To read the next buffer. -/
  | feed (buffer : Bytes)
  /-- To take what it has read for the whole input. -/
  | flush
  deriving DecidableEq, Repr

/-- Answers a call. -/
def call (t : Tokenizer m) : Call → Tokenizer m × List (Report m.Kind)
  | .feed buffer => t.feed buffer
  | .flush => t.flush

/-- Answers consecutive calls; what is reported stays apart for each of them. -/
def calls (t : Tokenizer m) : List Call → Tokenizer m × List (List (Report m.Kind))
  | [] => (t, [])
  | call :: more =>
    (((t.call call).1.calls more).1, (t.call call).2 :: ((t.call call).1.calls more).2)

section Upholds

variable {t : Tokenizer m} {p : m.State → Bytes → List (Event m.Kind) → Prop}
  {past : List (Event m.Kind)}

theorem upholds_call (hp : m.Upholds p) (h : t.Upholds p past) (call : Call) :
    (t.call call).1.Upholds p (past ++ Report.events (t.call call).2) := by
  cases call with
  | feed buffer => exact upholds_feed hp h buffer
  | flush => exact upholds_flush hp h

/-- What a machine keeps to holds of all that is reported for a sequence of calls. -/
theorem upholds_calls (hp : m.Upholds p) (h : t.Upholds p past) (calls : List Call) :
    (t.calls calls).1.Upholds p (past ++ Report.events (t.calls calls).2.flatten) := by
  induction calls generalizing t past with
  | nil =>
    show t.Upholds p (past ++ [])
    rw [List.append_nil]
    exact h
  | cons call more ih =>
    rw [calls, List.flatten_cons, Report.events_append, ← List.append_assoc]
    exact ih (upholds_call hp h call)

end Upholds

/-! ### What is left between tokens -/

/-- The tokenizer joins lines inside tokens only. -/
def JoinsInTokens (t : Tokenizer m) : Prop := t.continuation ≠ .none → m.isIdle t.state = false

theorem joinsInTokens_fresh (m : Machine) : (fresh m).JoinsInTokens :=
  fun hne => absurd rfl hne

theorem continuation_flush (t : Tokenizer m) : t.flush.1.continuation = .none := by
  unfold flush
  dsimp only
  split <;> rfl

variable {t : Tokenizer m}

theorem JoinsInTokens.feed (hm : m.IsSteady) (ht : t.JoinsInTokens) (buffer : Bytes) :
    (t.feed buffer).1.JoinsInTokens := by
  have hsound : Reading.IsSound ⟨t.state, [], t.continuation⟩ := ⟨fun _ => rfl, ht⟩
  have hcarries : t.Carries (fun r _ => r.IsSound) (buffer ++ []) := ⟨[], hsound⟩
  obtain ⟨run, hrun⟩ := hcarries.feed (Reading.isCarried_isSound hm)
  exact hrun.of_continuation

theorem JoinsInTokens.call (hm : m.IsSteady) (ht : t.JoinsInTokens) (call : Call) :
    (t.call call).1.JoinsInTokens := by
  cases call with
  | feed buffer => exact ht.feed hm buffer
  | flush =>
    intro hne
    exact absurd t.continuation_flush hne

/-- Every sequence of calls keeps line continuations to tokens. -/
theorem JoinsInTokens.calls (hm : m.IsSteady) (ht : t.JoinsInTokens) (calls : List Call) :
    (t.calls calls).1.JoinsInTokens := by
  induction calls generalizing t with
  | nil => exact ht
  | cons call more ih => exact ih (ht.call hm call)

/-- With nothing pending, a tokenizer of a machine that forgets its tokens is a fresh one. -/
theorem eq_fresh (hf : m.ForgetsTokens) (ht : t.JoinsInTokens) (hpending : t.isPending = false) :
    t = fresh m := by
  obtain ⟨state, held, continuation⟩ := t
  obtain ⟨hheld, hidle⟩ : held = none ∧ m.isIdle state = true := by
    simpa [isPending] using hpending
  have hstate : state = m.start := hf state hidle
  have hcontinuation : continuation = .none := by
    apply Decidable.of_not_not
    intro hne
    have hbusy : m.isIdle state = false := ht hne
    exact absurd hidle (by simp [hbusy])
  subst hstate hheld hcontinuation
  rfl

/-- The end of the input leaves a fresh tokenizer, whatever came before it. -/
theorem flush_eq_fresh (hf : m.ForgetsTokens) (t : Tokenizer m) : t.flush.1 = fresh m := by
  have hjoins : t.flush.1.JoinsInTokens := fun hne => absurd t.continuation_flush hne
  exact eq_fresh hf hjoins t.isPending_flush

end Tokenizer

/-! ### Calls to simulated machines -/

namespace Machine.Simulation.Tokenizers

variable {r : Machine} {S : Simulation r m} {t t' : Tokenizer r} {v : Tokenizer m}

theorem call (h : S.Tokenizers t v) (call : Tokenizer.Call) :
    (v.call call).2 = (t.call call).2.map (Report.map S.name)
      ∧ S.Tokenizers (t.call call).1 (v.call call).1 := by
  cases call with
  | feed buffer => exact h.feed buffer
  | flush => exact h.flush

/-- Every sequence of calls is answered with the same reports. -/
theorem calls (h : S.Tokenizers t v) (calls : List Tokenizer.Call) :
    (v.calls calls).2 = (t.calls calls).2.map (List.map (Report.map S.name))
      ∧ S.Tokenizers (t.calls calls).1 (v.calls calls).1 := by
  induction calls generalizing t v with
  | nil => exact ⟨rfl, h⟩
  | cons call more ih =>
    obtain ⟨hreports, hnext⟩ := h.call call
    obtain ⟨hmore, hlast⟩ := ih hnext
    refine ⟨?_, hlast⟩
    rw [Tokenizer.calls, Tokenizer.calls, List.map_cons, hreports, hmore]

/-- Tokenizers that stand for the same one answer all calls alike. -/
theorem calls_eq (h : S.Tokenizers t v) (h' : S.Tokenizers t' v) (calls : List Tokenizer.Call) :
    (t.calls calls).2 = (t'.calls calls).2 := by
  have hinjective : Function.Injective (List.map (List.map (Report.map S.name))) :=
    List.map_injective_iff.mpr
      (List.map_injective_iff.mpr (Report.map_injective S.name_injective))
  exact hinjective ((h.calls calls).1.symm.trans (h'.calls calls).1)

end Machine.Simulation.Tokenizers

/-! ### The formats -/

namespace Format

/-- The formats that read all of their input in one way. -/
def uniform : List Format := [.cpp, .prose, .markdown, .shell, .escapes]

/-- The other formats are in one of two modes between tokens, or in one of several phases. -/
theorem forgetsTokens_iff (style : Cpp.Style) (format : Format) :
    (format.machine style).ForgetsTokens ↔ format ∈ uniform := by
  have hidle {σ : Type} [BEq σ] [LawfulBEq σ] {s start : σ} (h : (s == start) = true) :
      s = start := LawfulBEq.eq_of_beq h
  cases format with
  | cpp => exact ⟨fun _ => by decide, fun _ _ => hidle⟩
  | prose => exact ⟨fun _ => by decide, fun _ _ => hidle⟩
  | markdown => exact ⟨fun _ => by decide, fun _ _ => hidle⟩
  | shell => exact ⟨fun _ => by decide, fun _ _ => hidle⟩
  | escapes => exact ⟨fun _ => by decide, fun _ _ => hidle⟩
  | xml =>
    -- between tokens a tag may be open
    refine ⟨fun h => ?_, fun h => absurd h (by decide)⟩
    have hstart : (⟨true, .idle⟩ : Xml.State) = ⟨false, .idle⟩ := h _ rfl
    exact absurd hstart (by decide)
  | mail =>
    -- between tokens the header may be over
    refine ⟨fun h => ?_, fun h => absurd h (by decide)⟩
    have hstart : (⟨.body, true, .idle⟩ : Mail.State) = ⟨.headers, true, .idle⟩ := h _ rfl
    exact absurd hstart (by decide)
  | diagnostics =>
    -- between tokens the fields of a message may be over
    refine ⟨fun h => ?_, fun h => absurd h (by decide)⟩
    have hstart : (⟨.message, .idle⟩ : Diagnostics.State) = ⟨.start, .idle⟩ := h _ rfl
    exact absurd hstart (by decide)

/-- The kinds of a format on registers have the titles they have with its machine. -/
theorem title_simulation (style : Cpp.Style) (format : Format)
    (kind : (format.registers style).Kind) :
    TokenKind.title ((simulation style format).name kind) = TokenKind.title kind := by
  cases format <;> rfl

/-- Whatever calls a tokenizer of one of these formats has answered, on registers: its reports are
those of the machine of the format, and so is whether anything is pending. If nothing is, it answers
all further calls as a fresh one does, whatever its registers hold. Nothing is ever pending after a
flush, hence after the flush a decorator finishes with. -/
theorem calls_eq_fresh (style : Cpp.Style) {format : Format} (hformat : format ∈ uniform)
    (calls : List Tokenizer.Call) :
    let r := format.registers style
    let t := ((Tokenizer.fresh r).calls calls).1
    ((Tokenizer.fresh (format.machine style)).calls calls).2
        = ((Tokenizer.fresh r).calls calls).2.map
            (List.map (Report.map (simulation style format).name))
      ∧ (∀ kind, TokenKind.title ((simulation style format).name kind) = TokenKind.title kind)
      ∧ ((Tokenizer.fresh (format.machine style)).calls calls).1.isPending = t.isPending
      ∧ (t.isPending = false → ∀ more, (t.calls more).2 = ((Tokenizer.fresh r).calls more).2)
      ∧ t.flush.1.isPending = false
      ∧ (∀ more, (t.flush.1.calls more).2 = ((Tokenizer.fresh r).calls more).2)
      ∧ ∀ {ε τ : Type} (renderer : Renderer r.Kind) (state : renderer.State) (sink : Sink ε τ)
          (memory : τ) (more : List Tokenizer.Call),
          ((Decorator.finish ⟨⟨r, renderer⟩, t, state⟩ sink memory).state.tokenizer.calls more).2
            = ((Tokenizer.fresh r).calls more).2 := by
  intro r t
  let m := format.machine style
  let v := ((Tokenizer.fresh m).calls calls).1
  have hm : m.IsSteady := isSteady_machine style format
  have hf : m.ForgetsTokens := (forgetsTokens_iff style format).mpr hformat
  have hjoins : v.JoinsInTokens := (Tokenizer.joinsInTokens_fresh m).calls hm calls
  have hfresh := Machine.Simulation.Tokenizers.fresh (simulation style format)
  have hshows : (simulation style format).Tokenizers t v := (hfresh.calls calls).2
  have hflush : (simulation style format).Tokenizers t.flush.1 (Tokenizer.fresh m) :=
    v.flush_eq_fresh hf ▸ hshows.flush.2
  refine ⟨(hfresh.calls calls).1, title_simulation style format, hshows.isPending_eq.symm, ?_,
    t.isPending_flush, hflush.calls_eq hfresh, ?_⟩
  · intro hpending
    have hv : v = Tokenizer.fresh m :=
      Tokenizer.eq_fresh hf hjoins (hshows.isPending_eq.symm.trans hpending)
    exact (hv ▸ hshows).calls_eq hfresh
  · intro ε τ renderer state sink memory more
    exact hflush.calls_eq hfresh more

/-- The delimiter of the string stays in its register, and is not seen any more. -/
theorem calls_eq_fresh_cpp :
    let t := ((Tokenizer.fresh (cpp.registers defaultStyle)).calls
      [.feed (Bytes.ascii "\"a\""), .flush]).1
    Format.cpp ∈ uniform ∧ t.isPending = false
      ∧ Cpp.Registers.delimiter t.state = '"'.toUInt8
      ∧ (t.calls [.feed (Bytes.ascii "'\"'")]).2
        = ((Tokenizer.fresh (cpp.registers defaultStyle)).calls
            [.feed (Bytes.ascii "'\"'")]).2 := by
  have hcpp : Format.cpp ∈ uniform := by decide
  have hpending : ((Tokenizer.fresh (cpp.registers defaultStyle)).calls
      [.feed (Bytes.ascii "\"a\""), .flush]).1.isPending = false := by decide
  obtain ⟨-, -, -, hcalls, -⟩ :=
    calls_eq_fresh defaultStyle hcpp [.feed (Bytes.ascii "\"a\""), .flush]
  exact ⟨hcpp, hpending, by decide, hcalls hpending _⟩

end Format

end MarkupFeed
