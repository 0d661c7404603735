import MarkupFeed.Proofs.Tokenizer.Tokens

/-!
# Line continuations inside tokens

Where a token has a line end, the lines are joined there.

A line end inside a token stands behind a backslash, as the LF, the CR or the CR LF of a line
continuation (`Bytes.IsJoined`), and so it is with every token of every machine
(`Reading.isJoined_events`).
-/

namespace MarkupFeed

/-- Whether every line end of a text is behind a backslash. The LF of a CR LF is so if its CR is. -/
def Bytes.IsJoined (text : Bytes) : Prop :=
  ∀ before b after, text = before ++ b :: after →
    b = Octet.lineFeed ∨ b = Octet.carriageReturn →
    [Octet.backslash] <:+ before
      ∨ (b = Octet.lineFeed ∧ [Octet.backslash, Octet.carriageReturn] <:+ before)

namespace Bytes

theorem isJoined_nil : IsJoined [] := by
  intro before b after h
  exact absurd h (by simp)

/-- A text goes on with an octet that is no line end, or with one behind a backslash. -/
theorem IsJoined.concat {text : Bytes} (h : text.IsJoined) {b : UInt8}
    (hb : b = Octet.lineFeed ∨ b = Octet.carriageReturn → [Octet.backslash] <:+ text
      ∨ (b = Octet.lineFeed ∧ [Octet.backslash, Octet.carriageReturn] <:+ text)) :
    (text ++ [b]).IsJoined := by
  intro before c after heq hc
  rcases List.eq_nil_or_concat after with rfl | ⟨middle, last, rfl⟩
  · obtain ⟨rfl, rfl⟩ := List.append_inj' heq rfl |>.imp_right (fun h => (List.cons.inj h).1)
    exact hb hc
  · rw [List.concat_eq_append, ← List.cons_append, ← List.append_assoc] at heq
    exact h before c middle (List.append_inj' heq rfl).1 hc

end Bytes

/-- What is kept of the octets of a token: line ends are joined, and in the middle of a line
continuation its first octets are the last ones read. -/
def Continuation.Joins (c : Continuation) (run : Bytes) : Prop :=
  run.IsJoined ∧ (c = .backslash → [Octet.backslash] <:+ run)
    ∧ (c = .carriageReturn → [Octet.backslash, Octet.carriageReturn] <:+ run)

namespace Reading

variable {m : Machine}

theorem runsKeep_joins (m : Machine) : m.RunsKeep Continuation.Joins where
  nil := ⟨Bytes.isJoined_nil, fun h => absurd h (by decide), fun h => absurd h (by decide)⟩
  octet h hlf hcr := by
    refine ⟨h.1.concat ?_, fun h => absurd h (by decide), fun h => absurd h (by decide)⟩
    rintro (hb | hb)
    · exact absurd hb hlf
    · exact absurd hb hcr
  join _ h := by
    refine ⟨h.1.concat ?_, fun _ => List.suffix_append _ _, fun h => absurd h (by decide)⟩
    rintro (hb | hb) <;> exact absurd hb (by decide)
  extend {c next run b} h hext := by
    obtain ⟨hjoined, hback, hreturn⟩ := h
    cases c with
    | none => exact absurd hext (by simp [Continuation.extend])
    | backslash =>
      have hbehind := hback rfl
      have hmore : (run ++ [b]).IsJoined := hjoined.concat fun _ => .inl hbehind
      unfold Continuation.extend at hext
      dsimp only at hext
      split at hext
      · obtain rfl := Option.some.inj hext
        exact ⟨hmore, fun h => absurd h (by decide), fun h => absurd h (by decide)⟩
      split at hext
      · next hcr =>
        obtain rfl := Option.some.inj hext
        obtain ⟨front, rfl⟩ := hbehind
        refine ⟨hmore, fun h => absurd h (by decide), fun _ => ⟨front, ?_⟩⟩
        rw [hcr, List.append_assoc]
        rfl
      · exact absurd hext (by simp)
    | carriageReturn =>
      have hbehind := hreturn rfl
      unfold Continuation.extend at hext
      dsimp only at hext
      split at hext
      · next hlf =>
        obtain rfl := Option.some.inj hext
        exact ⟨hjoined.concat fun _ => .inr ⟨hlf, hbehind⟩, fun h => absurd h (by decide),
          fun h => absurd h (by decide)⟩
      · exact absurd hext (by simp)

/-- Every line end inside a token is one of a line continuation. -/
theorem isJoined_events (input : Bytes) :
    ∀ event ∈ ({} : Reading m).events input, event.IsMadeOf Bytes.IsJoined := by
  intro event hevent
  have hmade := isMadeOf_events (runsKeep_joins m) (runsKeep_joins m).nil input event hevent
  refine hmade.mono ?_
  rintro text ⟨_, hjoined, -⟩
  exact hjoined

end Reading

end MarkupFeed
