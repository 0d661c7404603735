import MarkupFeed.Format
import MarkupFeed.Proofs.Tokenizer.Reading

/-!
# All formats are steady

The machines of all formats stay inside a token as long as it goes on (`Format.isSteady_machine`),
so that what is proved of steady machines holds of every format. Of C and C++ `shifts_step` says
besides how an escape begins.
-/

namespace MarkupFeed

/-! ### C and C++ -/

namespace Cpp.State

/-- The octet is a backslash in the quotes of a literal, and not escaped. -/
def OpensEscape (s : State) (b : UInt8) : Prop :=
  b = Octet.backslash ∧ s.isEscape = false
    ∧ (s.kind = .characterLiteral ∨ s.kind = .stringLiteral)

/-- With the octet a state may go on to one that is inside a token, and that escapes the next octet
only if this one opens an escape. -/
def MayGoOn (s : State) (b : UInt8) (next : State) : Prop :=
  next ≠ .idle ∧ (next.isEscape = true → s.OpensEscape b)

variable (s : State)

theorem shifts_fail (b : UInt8) : (fail b).Shifts (s.MayGoOn b) := by
  simp [fail, MayGoOn, isEscape]

theorem shifts_endNumber (number : State) (b : UInt8) :
    (endNumber number b).Shifts (s.MayGoOn b) := by
  simp [endNumber, MayGoOn, isEscape]

theorem shifts_acceptAmong (state : State) (chars : List Char) (b : UInt8) :
    (state.acceptAmong chars b).Shifts (s.MayGoOn b) := by
  simp [acceptAmong]

theorem shifts_lead (b : UInt8) : (lead b).Shifts (s.MayGoOn b) := by
  simp [lead, MayGoOn, isEscape]

theorem shifts_inEscape (quote : Quote) (b : UInt8) :
    (inEscape quote b).Shifts (s.MayGoOn b) := by
  simp [inEscape, shifts_fail, MayGoOn, isEscape]

variable {s} in
/-- In quotes, outside escapes, a backslash opens one. -/
theorem shifts_inQuotes {quote : Quote} (hescape : s.isEscape = false) (hkind : s.kind = quote.kind)
    (b : UInt8) : (inQuotes quote b).Shifts (s.MayGoOn b) := by
  have hliteral : s.kind = .characterLiteral ∨ s.kind = .stringLiteral := by
    rw [hkind]
    cases quote
    · exact .inl rfl
    · exact .inr rfl
  rw [inQuotes, Step.shifts_ite]
  refine ⟨fun hb => ⟨by simp, fun _ => ⟨hb, hescape, hliteral⟩⟩, ?_⟩
  simp [MayGoOn, isEscape]

theorem mayGoOn_of_toFloat? {b : UInt8} {next : State} (h : toFloat? b = some next) :
    s.MayGoOn b next := by
  unfold toFloat? at h
  split at h
  · cases h
    simp [MayGoOn, isEscape]
  · split at h
    · cases h
      simp [MayGoOn, isEscape]
    · cases h

theorem shifts_inInteger (number : State) (b : UInt8) :
    (inInteger number b).Shifts (s.MayGoOn b) := by
  unfold inInteger
  split
  · next next h => exact mayGoOn_of_toFloat? s h
  · simp [shifts_endNumber, MayGoOn, isEscape]

theorem shifts_step (b : UInt8) : (s.step b).Shifts (s.MayGoOn b) := by
  cases s with
  | pendingFloat =>
    rw [step, Step.shifts_ite]
    refine ⟨fun _ => by simp [MayGoOn, isEscape], ?_⟩
    intro _
    split
    · next next h => exact mayGoOn_of_toFloat? _ h
    · exact shifts_endNumber _ _ b
  | quoted quote => exact shifts_inQuotes rfl rfl b
  | universal quote missing =>
    cases missing <;> simp [step, shifts_fail, MayGoOn, isEscape]
  | octalEscape quote room =>
    rw [step]
    split
    · split <;> simp [MayGoOn, isEscape]
    · exact shifts_inQuotes rfl rfl b
  | hexEscape quote =>
    rw [step, Step.shifts_ite]
    exact ⟨fun _ => by simp [MayGoOn, isEscape], fun _ => shifts_inQuotes rfl rfl b⟩
  | blockComment =>
    rw [step, Step.shifts_shift]
    split <;> simp [MayGoOn, isEscape]
  | blockCommentStar =>
    -- a slash ends the comment, and anything else goes on with it
    rw [step, Step.shifts_ite]
    refine ⟨fun _ => trivial, ?_⟩
    intro _
    rw [Step.shifts_shift]
    split <;> simp [MayGoOn, isEscape]
  | _ =>
    -- every other state goes on to states given by their constructors, or by the functions above
    simp [step, shifts_fail, shifts_endNumber, shifts_acceptAmong, shifts_lead, shifts_inEscape,
      shifts_inInteger, MayGoOn, isEscape]

end Cpp.State

/-! ### The other formats -/

theorem Xml.State.shifts_step (s : Xml.State) (b : UInt8) :
    (s.step b).Shifts (·.token ≠ .idle) := by
  obtain ⟨inTag, token⟩ := s
  cases token <;> grind [Xml.State.step, Xml.State.lead, Xml.State.fail, Step.Shifts]

theorem Mail.State.shifts_step (s : Mail.State) (b : UInt8) :
    (s.step b).Shifts (·.token ≠ .idle) := by
  obtain ⟨mode, lineStart, token⟩ := s
  cases token <;> grind [Mail.State.step, Mail.State.lead, Mail.State.inFieldName, Step.Shifts]

theorem Mail.isSteady_machine : Mail.machine.IsSteady :=
  fun s b => (Mail.State.shifts_step s b).mono fun _ => beq_eq_false_iff_ne.2

theorem Prose.State.shifts_step (s : Prose.State) (b : UInt8) : (s.step b).Shifts (· ≠ .idle) := by
  cases s <;> grind [Prose.State.step, Prose.State.afterText, Step.Shifts]

theorem Markdown.State.next_ne_idle (s : Markdown.State) (b : UInt8) : s.next b ≠ .idle := by
  cases s <;> grind [Markdown.State.next]

theorem Shell.State.shifts_step (s : Shell.State) (b : UInt8) : (s.step b).Shifts (· ≠ .idle) := by
  cases s <;> grind [Shell.State.step, Shell.State.afterCode, Step.Shifts]

theorem Escapes.State.shifts_step (s : Escapes.State) (b : UInt8) :
    (s.step b).Shifts (· ≠ .idle) := by
  cases s <;> grind [Escapes.State.step, Step.Shifts]

theorem Diagnostics.State.shifts_step (s : Diagnostics.State) (b : UInt8) :
    (s.step b).Shifts (·.token ≠ .idle) := by
  obtain ⟨phase, token⟩ := s
  cases token <;> cases phase
    <;> grind [Diagnostics.State.step, Diagnostics.Phase.lead, Step.Shifts]

namespace Format

/-- No format takes an octet into a token and is between tokens after it. -/
theorem isSteady_machine (style : Cpp.Style) (format : Format) :
    (format.machine style).IsSteady := by
  intro s b
  cases format with
  | cpp => exact (Cpp.State.shifts_step s b).mono fun _ h => beq_eq_false_iff_ne.2 h.1
  | xml => exact (Xml.State.shifts_step s b).mono fun _ => beq_eq_false_iff_ne.2
  | mail => exact Mail.isSteady_machine s b
  | prose => exact (Prose.State.shifts_step s b).mono fun _ => beq_eq_false_iff_ne.2
  | markdown =>
    -- every octet of a line goes on its one token
    exact beq_eq_false_iff_ne.2 (Markdown.State.next_ne_idle s b)
  | shell => exact (Shell.State.shifts_step s b).mono fun _ => beq_eq_false_iff_ne.2
  | escapes => exact (Escapes.State.shifts_step s b).mono fun _ => beq_eq_false_iff_ne.2
  | diagnostics => exact (Diagnostics.State.shifts_step s b).mono fun _ => beq_eq_false_iff_ne.2

/-- A backslash joins lines in C and C++ and in diagnostics only. -/
theorem continuesLines_machine (style : Cpp.Style) (format : Format) :
    (format.machine style).continuesLines = decide (format ∈ [.cpp, .diagnostics]) := by
  cases format <;> rfl

end Format

end MarkupFeed
