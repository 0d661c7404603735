import MarkupFeed.Proofs.Format.Literals
import MarkupFeed.Proofs.Tokenizer.Turns

/-!
# Between tokens no octet is refused

Between tokens no format refuses an octet.

A machine that rejects an octet although it is between tokens gets it back as an error token; the
machines of the formats never do (`Format.isReject_of_isIdle`). The main statement says so together
with what it means for the loop of a scan, of these machines and of any other:
`Tokenizer.scan_reads_twice_at_most`.
-/

namespace MarkupFeed

/-! ### The formats -/

theorem Xml.State.isReject_lead (s : Xml.State) (b : UInt8) : (s.lead b).isReject = false := by
  simp [lead]

theorem Mail.State.isReject_lead (s : Mail.State) (b : UInt8) : (s.lead b).isReject = false := by
  unfold lead
  dsimp only
  split
  · rfl
  · split <;> simp

theorem Diagnostics.Phase.isReject_lead (phase : Diagnostics.Phase) (b : UInt8) :
    (phase.lead b).isReject = false := by
  unfold lead
  split
  · rfl
  · split <;> rfl

theorem Escapes.State.isReject_step_idle (b : UInt8) : (step idle b).isReject = false := by
  cases hreserved : Escapes.Kind.reserved? b <;> simp [step, hreserved]

/-- Between tokens the machines of all formats take every octet. -/
theorem Format.isReject_of_isIdle (style : Cpp.Style) (format : Format)
    {s : (format.machine style).State} (hidle : (format.machine style).isIdle s = true)
    (b : UInt8) : ((format.machine style).step s b).isReject = false := by
  cases format with
  | cpp =>
    cases (beq_iff_eq (α := Cpp.State)).mp hidle
    exact Cpp.takesAll_machine style b
  | xml =>
    obtain ⟨inTag, token⟩ := s
    cases (beq_iff_eq (α := Xml.Token)).mp hidle
    exact Xml.State.isReject_lead _ b
  | mail =>
    obtain ⟨mode, lineStart, token⟩ := s
    cases (beq_iff_eq (α := Mail.Token)).mp hidle
    exact Mail.State.isReject_lead _ b
  | prose =>
    cases (beq_iff_eq (α := Prose.State)).mp hidle
    rfl
  | markdown => rfl
  | shell =>
    cases (beq_iff_eq (α := Shell.State)).mp hidle
    rfl
  | escapes =>
    cases (beq_iff_eq (α := Escapes.State)).mp hidle
    exact Escapes.State.isReject_step_idle b
  | diagnostics =>
    obtain ⟨phase, token⟩ := s
    cases (beq_iff_eq (α := Diagnostics.Token)).mp hidle
    exact phase.isReject_lead b

/-! ### Main result -/

/-- Whatever the machine, the buffer, the start in it and what follows it: the loop of a scan ends
after at most two turns for each octet; the machine reads an octet twice only if it has rejected it
in a token and then reads it between tokens; and one that it refuses even there is taken off the
buffer as an error token of one octet. The machine of no format refuses an octet, in whatever state
between tokens, and so no turn of a scan with it does. -/
theorem Tokenizer.scan_reads_twice_at_most :
    (∀ (m : Machine) (t : Tokenizer m) (buffer : Bytes) (start : Nat) (after : Ahead),
      ∃ (turns : List (Turn m)) (last : Scan m),
        Loops after { t with length := buffer.length, first := start } (buffer.drop start)
          turns last
        ∧ t.scan buffer start after = last.interrupt
        ∧ turns.length ≤ 2 * (buffer.length - start)
        ∧ (∀ behind, AreFew after (offersAt after turns behind))
        ∧ ∀ turn ∈ turns, turn.IsRefused after →
          ∃ (before : Bytes) (s : Scan m), buffer = before ++ turn.octet :: turn.rest
            ∧ turn.result after = .again s turn.rest ∧ m.isIdle s.state = true
            ∧ ⟨.token TokenKind.error [turn.octet] false, before.length, buffer.length⟩
              ∈ (t.scan buffer start after).found)
    ∧ ∀ (style : Cpp.Style) (format : Format),
      (∀ s, (format.machine style).isIdle s = true →
        ∀ b, ((format.machine style).step s b).isReject = false)
      ∧ ∀ (t : Tokenizer (format.machine style)) (buffer : Bytes) (start : Nat) (after : Ahead)
          (turns : List (Turn (format.machine style))) (last : Scan (format.machine style)),
        Loops after { t with length := buffer.length, first := start } (buffer.drop start)
          turns last → ∀ turn ∈ turns, ¬turn.IsRefused after := by
  constructor
  · intro m t buffer start after
    obtain ⟨turns, last, hloops, hrun, hlength⟩ := exists_loops after
      ({ t with length := buffer.length, first := start } : Scan m) (buffer.drop start)
    refine ⟨turns, last, hloops, hrun, ?_, hloops.areFew_offersAt, ?_⟩
    · rw [Turn.turnsLeft, List.length_drop] at hlength
      omega
    · intro turn hmem hrefused
      obtain ⟨hat, hsuffix⟩ := hloops.isAt_of_mem ⟨rfl, rfl⟩ turn hmem
      obtain ⟨before, hbuffer, hbefore⟩ := hat.exists_before
      obtain ⟨hidle, hfound⟩ := hrefused.found_taken
      refine ⟨before, turn.taken, hbuffer, hrefused.result_eq, hidle, ?_⟩
      rw [hrefused.result_eq] at hsuffix
      have hreport : ⟨.token TokenKind.error [turn.octet] false, before.length, buffer.length⟩
          ∈ turn.taken.found := by
        rw [hfound, hbefore, ← hat.length_eq]
        exact List.mem_cons_self
      have hscan : t.scan buffer start after = last.interrupt := hrun
      rw [hscan]
      exact last.passes_interrupt.found.subset (hsuffix.subset hreport)
  · intro style format
    refine ⟨fun s hidle b => format.isReject_of_isIdle style hidle b, ?_⟩
    intro t buffer start after turns last _ turn _ hrefused
    obtain ⟨next, hstep⟩ := hrefused.exists_reject
    have htakes := format.isReject_of_isIdle style hrefused.isIdle turn.octet
    rw [hstep] at htakes
    exact absurd htakes (by simp)

end MarkupFeed
