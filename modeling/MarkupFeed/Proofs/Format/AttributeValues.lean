import MarkupFeed.Proofs.Format.Wholes

/-!
# Attribute values of XML and HTML

A value begins with a quote and is closed by the next octet that is the same one, however many lines
this takes; if none comes, what the machine gives out in the end is no value. So every attribute
value has its quotes around it, and none of them in it: `Xml.isQuoted_of_mem_wholes`.
-/

namespace MarkupFeed.Xml

/-- Whether the octet can begin an attribute value. -/
def IsQuote (b : UInt8) : Prop := b = '"'.toUInt8 ∨ b = '\''.toUInt8

/-- Whether the octets are those of an attribute value: two quotes of one kind, and between them
none of that kind. -/
def IsQuoted (text : Bytes) : Prop :=
  ∃ quote inner, IsQuote quote ∧ quote ∉ inner ∧ text = quote :: (inner ++ [quote])

/-- What the state says of the octets of the token: in an attribute value there was no quote since
the first one, and no token is complete. -/
def HoldsOctets (text : Bytes) (s : State) : Prop :=
  match s.token with
  | .idle => text = []
  | .attValue quote => IsQuote quote ∧ ∃ inner, quote ∉ inner ∧ text = quote :: inner
  | .complete _ => False
  | _ => True

variable {s next : State} {b : UInt8} {text : Bytes}

theorem isQuote_of_among (h : Octet.among ['"', '\''] b = true) : IsQuote b := by
  simp only [Octet.among, List.any_cons, List.any_nil, Bool.or_false, Bool.or_eq_true,
    beq_iff_eq] at h
  exact h.imp Eq.symm Eq.symm

/-- The first octet of an attribute value is its quote. -/
theorem holdsOctets_lead (hstep : s.lead b = .shift next) : HoldsOctets [b] next := by
  unfold State.lead at hstep
  split at hstep
  · cases hstep; trivial
  split at hstep
  · cases hstep; trivial
  split at hstep
  · cases hstep; trivial
  split at hstep
  · cases hstep
  split at hstep
  · next hquote =>
    cases hstep
    exact ⟨isQuote_of_among hquote, [], List.not_mem_nil, rfl⟩
  repeat' split at hstep
  all_goals cases hstep
  all_goals trivial

theorem step_attValue (inTag : Bool) (quote b : UInt8) :
    State.step ⟨inTag, .attValue quote⟩ b
      = if b = quote then .accept ⟨inTag, .complete .attValue⟩
        else .shift ⟨inTag, .attValue quote⟩ :=
  rfl

theorem holdsOctets_shift (h : HoldsOctets text s) (hstep : s.step b = .shift next) :
    HoldsOctets (text ++ [b]) next := by
  obtain ⟨inTag, token⟩ := s
  cases token with
  | attValue quote =>
    obtain ⟨hquote, inner, hinner, rfl⟩ := h
    rw [step_attValue] at hstep
    split at hstep
    · cases hstep
    · next hb =>
      cases hstep
      refine ⟨hquote, inner ++ [b], ?_, rfl⟩
      rw [List.mem_append, List.mem_singleton, not_or]
      exact ⟨hinner, Ne.symm hb⟩
  | idle =>
    obtain rfl : text = [] := h
    exact holdsOctets_lead hstep
  | complete kind => exact h.elim
  | _ =>
    dsimp only [State.step, State.fail] at hstep
    repeat' split at hstep
    all_goals cases hstep
    all_goals trivial

/-- No octet that begins a token completes a value. -/
theorem finalKind_lead (hstep : s.lead b = .accept next ∨ s.lead b = .reject next) :
    next.token.finalKind ≠ .attValue := by
  unfold State.lead at hstep
  rcases hstep with hstep | hstep
  all_goals
    repeat' split at hstep
    all_goals cases hstep
    all_goals exact Kind.noConfusion

/-- Only within a value can an octet complete one. -/
theorem finalKind_step (htoken : ∀ quote, s.token ≠ .attValue quote)
    (h : HoldsOctets text s) (hstep : s.step b = .accept next ∨ s.step b = .reject next) :
    next.token.finalKind ≠ .attValue := by
  obtain ⟨inTag, token⟩ := s
  cases token with
  | attValue quote => exact absurd rfl (htoken quote)
  | idle => exact finalKind_lead hstep
  | complete kind => exact h.elim
  | _ =>
    dsimp only [State.step, State.fail] at hstep
    rcases hstep with hstep | hstep
    all_goals
      repeat' split at hstep
      all_goals cases hstep
      all_goals exact Kind.noConfusion

/-- The octet with which an attribute value is complete is the quote it began with. -/
theorem isQuoted_accept (h : HoldsOctets text s) (hstep : s.step b = .accept next)
    (hkind : next.token.finalKind = .attValue) : IsQuoted (text ++ [b]) := by
  obtain ⟨inTag, token⟩ := s
  cases token with
  | attValue quote =>
    obtain ⟨hquote, inner, hinner, rfl⟩ := h
    rw [step_attValue] at hstep
    split at hstep
    · next hb => exact ⟨quote, inner, hquote, hinner, by rw [hb]; rfl⟩
    · cases hstep
  | _ => exact absurd hkind (finalKind_step (fun _ => Token.noConfusion) h (.inl hstep))

theorem finalKind_ne_of_reject (h : HoldsOctets text s) (hstep : s.step b = .reject next) :
    next.token.finalKind ≠ .attValue := by
  obtain ⟨inTag, token⟩ := s
  cases token with
  | attValue quote =>
    rw [step_attValue] at hstep
    split at hstep <;> cases hstep
  | _ => exact finalKind_step (fun _ => Token.noConfusion) h (.inr hstep)

theorem finalKind_ne (h : HoldsOctets text s) : s.token.finalKind ≠ .attValue := by
  obtain ⟨inTag, token⟩ := s
  cases token with
  | complete kind => exact h.elim
  | _ => exact Kind.noConfusion

theorem holdsOctets_newline {ending : Bytes} (h : HoldsOctets text s)
    (hspans : s.token.spansNewline = true) (hending : ending ∈ Bytes.lineEnds) :
    HoldsOctets (text ++ ending) { s with token := s.token.newline } := by
  obtain ⟨inTag, token⟩ := s
  cases token with
  | attValue quote =>
    obtain ⟨hquote, inner, hinner, rfl⟩ := h
    refine ⟨hquote, inner ++ ending, ?_, rfl⟩
    rw [List.mem_append, not_or]
    refine ⟨hinner, fun hmem => ?_⟩
    rcases hquote with rfl | rfl <;>
      exact absurd (Bytes.eq_or_eq_of_mem_lineEnds hending hmem) (by decide)
  | comment | commentDash | commentDashes => trivial
  | _ => exact absurd hspans Bool.false_ne_true

theorem tracks_quoted :
    machine.Tracks HoldsOctets fun kind text => kind = .attValue → IsQuoted text where
  idle {s} hidle := by
    obtain ⟨inTag, token⟩ := s
    obtain rfl : token = .idle := beq_iff_eq.mp hidle
    rfl
  shift h hstep := holdsOctets_shift h hstep
  accept h hstep hkind := isQuoted_accept h hstep hkind
  reject h _ hstep hkind := absurd hkind (finalKind_ne_of_reject h hstep)
  refuse _ _ := Kind.noConfusion
  close h _ hkind := absurd hkind (finalKind_ne h)
  newline h hspans hending := holdsOctets_newline h hspans hending
  join _ hjoins := absurd hjoins (by decide)

/-- Whatever buffers an input comes in, its attribute values are between quotes. -/
theorem isQuoted_of_mem_wholes {buffers : List Bytes} {text : Bytes} {fragment : Bool}
    (h : .token .attValue text fragment ∈ Event.wholes (machine.events buffers)) :
    IsQuoted text :=
  tracks_quoted.forall_mem_wholes (Format.isSteady_machine Format.defaultStyle .xml)
    (Format.isSteadyOverLines_machine Format.defaultStyle .xml)
    (Format.isIdleOverLines_machine Format.defaultStyle .xml) rfl buffers _ h rfl

end MarkupFeed.Xml
