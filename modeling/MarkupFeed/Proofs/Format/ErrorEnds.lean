import MarkupFeed.Proofs.Format.NumberEnds
import MarkupFeed.Proofs.Format.Restarting
import MarkupFeed.Proofs.Tokenizer.AfterToken

/-!
# Where errors of C and C++ end

Where an error of C and C++ ends, and what comes after it.

A token that goes wrong, be it in an escape, in a number or at its first octet, goes on to the next
separator, which is left to the token after it (`State.isSeparator_of_error`). No octet completes an
error, and a line end or the end of the input ends it like any token (`isSeparated_of_error`). The
one state between tokens remembers nothing of it, so that what follows is read as an input of its
own: `Cpp.errors_end`.
-/

namespace MarkupFeed

/-- The last piece of a token takes in the pieces before it, and merging begins anew behind it. -/
theorem Event.exists_merged_of_token {κ : Type} (before after : List (Event κ)) (kind : κ)
    (text : Bytes) :
    ∃ front first, merged (before ++ token kind text false :: after)
      = front ++ token kind (first ++ text) false :: merged after := by
  refine ⟨(settle none before).1, openText (settle none before).2, ?_⟩
  rw [merged, mergedAfter_append, mergedAfter_cons]
  rfl

/-- A complete token, all pieces of it together, is a word that the machine goes through from where
a token begins, and ends there. -/
theorem Machine.exists_ends_of_piece {m : Machine} (hm : m.IsSteady) {buffers : List Bytes}
    {before after : List (Event m.Kind)} {kind : m.Kind} {text : Bytes}
    (h : m.events buffers = before ++ .token kind text false :: after) :
    ∃ state whole, m.Begins state
      ∧ m.Ends state (Bytes.unjoined whole) kind (Event.source after) := by
  obtain ⟨front, first, hmerged⟩ := Event.exists_merged_of_token before after kind text
  rw [← h] at hmerged
  obtain ⟨state, hstate, hends⟩ := Machine.exists_ends hm hmerged
  rw [Event.merged_source] at hends
  exact ⟨state, first ++ text, hstate, hends⟩

/-- A machine that forgets its tokens takes what is behind one for an input of its own. -/
theorem Machine.ForgetsTokens.exists_events_eq {m : Machine} (hf : m.ForgetsTokens)
    {buffers : List Bytes} {before after : List (Event m.Kind)} {kind : m.Kind} {text : Bytes}
    (h : m.events buffers = before ++ .token kind text false :: after) :
    ∃ rest, after = m.events rest := by
  obtain ⟨q, hidle, rest, rfl⟩ := Machine.exists_events_after_token h
  obtain rfl : q = m.start := hf q hidle
  exact ⟨rest, rfl⟩

namespace Cpp

variable {style : Style}

/-- An error leaves nothing but separators to the next token. -/
theorem State.isSeparator_of_error (style : Style) {s next : State} {b : UInt8}
    (hs : s.isComplete = false) (h : s.step b = .reject next)
    (herror : next.finalKind style = .error) : isSeparator b = true := by
  cases s with
  | idle =>
    have htakes : (lead b).isReject = false := takesAll_machine style b
    rw [show lead b = .reject next from h] at htakes
    exact absurd htakes (by simp)
  | universal quote missing => cases missing <;> grind [step, fail]
  | _ =>
    grind [step, fail, endNumber, inInteger, toFloat?, acceptAmong, inQuotes, inEscape, finalKind,
      kind, isComplete]

/-- An error ends in front of a separator or a line end, or at the end of the input. -/
theorem isSeparated_of_error {word rest : Bytes} {kind : (machine style).Kind}
    (h : (machine style).Ends State.idle word kind rest) (herror : kind = Kind.error) :
    IsSeparated rest := by
  cases h with
  | accept hword hstep =>
    have hkind : Kind.error ∈ completedKinds := herror ▸ State.finalKind_of_accept style hstep
    exact absurd hkind (by decide)
  | @reject word rest b s next hword hbusy hstep =>
    have hs : State.isComplete s = false :=
      Machine.stateAfter?_kept (p := fun s : State => s.isComplete = false)
        (fun s b _ => State.shifts_isComplete s b) hword rfl
    have hb : isSeparator b = true := State.isSeparator_of_error style hs hstep herror
    exact fun c hc => Option.some.inj hc ▸ hb
  | lineEnd hword hbusy hrest => exact isSeparated_of_atLineEnd hrest
  | @refuse rest b next hidle hstep =>
    have htakes : ((machine style).step State.idle b).isReject = false := takesAll_machine style b
    rw [hstep] at htakes
    exact absurd htakes (by simp)

/-- Whatever buffers an input comes in, every octet of it is reported, errors or not. An error ends
in front of a separator or a line end, or at the end of the input. The events after it are those of
the octets after it, as an input of their own that comes in suitable buffers; merged, they are so
whatever buffers that would come in. -/
theorem errors_end (style : Style) {buffers : List Bytes} {before after : List (Event Kind)}
    {text : Bytes}
    (h : (machine style).events buffers = before ++ .token .error text false :: after) :
    buffers.flatten = Event.source before ++ (text ++ Event.source after)
      ∧ IsSeparated (Event.source after)
      ∧ (∃ rest : List Bytes, rest.flatten = Event.source after
        ∧ after = (machine style).events rest)
      ∧ ∀ rest : List Bytes, rest.flatten = Event.source after →
        Event.merged after = Event.merged ((machine style).events rest) := by
  have hm : (machine style).IsSteady := Format.isSteady_machine style .cpp
  have hf : (machine style).ForgetsTokens :=
    (Format.forgetsTokens_iff style .cpp).mpr (by decide)
  obtain ⟨left, rfl⟩ := hf.exists_events_eq h
  have hleft : Event.source ((machine style).events left) = left.flatten :=
    Machine.source_events hm left
  refine ⟨?_, ?_, ⟨left, hleft.symm, rfl⟩, ?_⟩
  · have hsource := Machine.source_events hm buffers
    rw [h] at hsource
    exact hsource.symm.trans (Event.source_append before _)
  · obtain ⟨state, whole, hstate, hends⟩ := Machine.exists_ends_of_piece hm h
    have hkind : Kind.error ≠ Kind.comment := by decide
    exact isSeparated_of_error (ends_idle hstate hends hkind) rfl
  · intro rest hrest
    have hafter : Event.merged ((machine style).events left) = Reading.events {} left.flatten :=
      (machine style).merged_events hm left
    have hfresh : Event.merged ((machine style).events rest) = Reading.events {} rest.flatten :=
      (machine style).merged_events hm rest
    have hflatten : left.flatten = rest.flatten := (hrest.trans hleft).symm
    exact hafter.trans (hflatten ▸ hfresh.symm)

/-- A number that goes wrong in the second buffer. -/
theorem errors_end_number :
    let buffers := [Bytes.ascii "0", Bytes.ascii "9a;x"]
    let after := [.token .punctuator (Bytes.ascii ";") false,
      .token .identifier (Bytes.ascii "x") true, .token .identifier [] false]
    (machine Format.defaultStyle).events buffers
        = [.token .decimalLiteral (Bytes.ascii "0") true]
          ++ .token .error (Bytes.ascii "9a") false :: after
      ∧ IsSeparated (Event.source after)
      ∧ Event.merged after
        = Event.merged ((machine Format.defaultStyle).events [Bytes.ascii ";x"]) := by
  intro buffers after
  have h : (machine Format.defaultStyle).events buffers
      = [.token .decimalLiteral (Bytes.ascii "0") true]
        ++ .token .error (Bytes.ascii "9a") false :: after := by decide
  obtain ⟨-, hseparated, -, hafter⟩ := errors_end Format.defaultStyle h
  exact ⟨h, hseparated, hafter [Bytes.ascii ";x"] (by decide)⟩

end Cpp

end MarkupFeed
