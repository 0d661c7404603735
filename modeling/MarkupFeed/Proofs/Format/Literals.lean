import MarkupFeed.Proofs.Format.Steady
import MarkupFeed.Proofs.Tokenizer.Words

/-!
# What a token of C and C++ may still become

Every state has the literals in prospect that a token may end up as (`State.prospects`), and an
octet never adds to them (`State.within_step`). So what has to be known of a kind of literals, to
tell which words are one, are the few states that have it in prospect: `Cpp.recognizes_of_prospects`
and `Cpp.tokens_eq_literal_iff`.
-/

namespace MarkupFeed.Cpp

/-- The kinds of number literals. -/
def numberKinds : List Kind :=
  [.decimalLiteral, .octalLiteral, .hexadecimalLiteral, .floatingLiteral]

/-- The kinds of literals that are no words. -/
def literalKinds : List Kind := numberKinds ++ [.characterLiteral, .stringLiteral]

/-- A word is no literal, except for the two boolean ones. -/
theorem classify_not_mem (style : Style) (word : Bytes) : classify style word ∉ literalKinds := by
  unfold classify
  repeat' split
  all_goals decide

theorem Quote.kind_mem (quote : Quote) : quote.kind ∈ literalKinds := by
  cases quote <;> decide

namespace State

/-- The kinds of literals that the token in progress may still become. -/
@[simp] def prospects : State → List Kind
  | idle => literalKinds
  | wide => [.characterLiteral, .stringLiteral]
  | zero => numberKinds
  | decimal => [.decimalLiteral, .floatingLiteral]
  | octal => [.octalLiteral, .floatingLiteral]
  | hexStart | hex => [.hexadecimalLiteral]
  | pendingFloat | fraction | exponent | exponentSign | exponentDigits | dot => [.floatingLiteral]
  | quoted quote | escape quote | octalEscape quote _ | hexEscapeStart quote | hexEscape quote
  | universal quote _ => [quote.kind]
  | intSuffix kind | complete kind => [kind].filter (· ∈ literalKinds)
  | _ => []

/-- A token ends up as a literal that it had in prospect. -/
theorem finalKind_mem_prospects (style : Style) (s : State)
    (h : s.finalKind style ∈ literalKinds) : s.finalKind style ∈ s.prospects := by
  cases s with
  | identifier word => exact absurd h (classify_not_mem style word)
  | wide => exact absurd h (classify_not_mem style ['L'.toUInt8])
  | intSuffix kind | complete kind =>
    have hliteral : kind ∈ literalKinds := h
    simp [finalKind, State.kind, hliteral]
  | _ => simp_all [finalKind, kind, literalKinds, numberKinds]

/-! ### No octet adds a prospect -/

/-- The token in progress becomes none but these literals. -/
def LimitedTo (kinds : List Kind) (s : State) : Prop := s.prospects ⊆ kinds

variable {kinds : List Kind} (b : UInt8)

@[simp] theorem within_fail : (fail b).Within (LimitedTo kinds) := by
  simp [fail, LimitedTo]

@[simp] theorem within_endNumber (number : State) :
    (endNumber number b).Within (LimitedTo kinds) := by
  simp [endNumber, LimitedTo]

theorem prospects_of_toFloat? {next : State} (h : toFloat? b = some next) :
    next.prospects = [.floatingLiteral] := by
  unfold toFloat? at h
  split at h
  · exact Option.some.inj h ▸ rfl
  split at h
  · exact Option.some.inj h ▸ rfl
  · exact absurd h (by simp)

theorem within_inInteger (hfloat : .floatingLiteral ∈ kinds) {number : State}
    (hnumber : number.kind ∈ kinds) : (inInteger number b).Within (LimitedTo kinds) := by
  unfold inInteger
  split
  · next next hnext =>
    show next.prospects ⊆ kinds
    rw [prospects_of_toFloat? b hnext]
    exact List.cons_subset.mpr ⟨hfloat, List.nil_subset kinds⟩
  · rw [Step.within_ite, Step.within_shift]
    refine ⟨fun _ kind hkind => ?_, fun _ => within_endNumber b number⟩
    have hmem : kind ∈ [number.kind] := (List.mem_filter.mp hkind).1
    exact List.mem_singleton.mp hmem ▸ hnumber

theorem within_inQuotes {quote : Quote} (h : quote.kind ∈ kinds) :
    (inQuotes quote b).Within (LimitedTo kinds) := by
  have hkind : quote.kind ∈ literalKinds := quote.kind_mem
  simp [inQuotes, LimitedTo, h, hkind]

theorem within_inEscape {quote : Quote} (h : quote.kind ∈ kinds) :
    (inEscape quote b).Within (LimitedTo kinds) := by
  simp [inEscape, LimitedTo, h]

theorem within_lead : (lead b).Within (LimitedTo literalKinds) := by
  simp [lead, LimitedTo, literalKinds, numberKinds, Quote.kind]

/-- No octet adds to the literals that the token in progress may become. -/
theorem within_step (s : State) (b : UInt8) : (s.step b).Within (LimitedTo s.prospects) := by
  have hquotes : ∀ quote : Quote, (inQuotes quote b).Within (LimitedTo [quote.kind]) :=
    fun quote => within_inQuotes b (List.mem_singleton_self quote.kind)
  cases s with
  | idle => exact within_lead b
  | zero | decimal | octal =>
    -- behind its digits an integer may still go on as a float
    simp [step, LimitedTo, numberKinds]
    intros
    exact within_inInteger b (by decide) (by decide)
  | pendingFloat =>
    rw [step, Step.within_ite]
    refine ⟨fun _ => by simp [LimitedTo], fun _ => ?_⟩
    split
    · next next hnext =>
      have hfloat : next.prospects = [.floatingLiteral] := prospects_of_toFloat? b hnext
      show next.prospects ⊆ [.floatingLiteral]
      exact hfloat ▸ List.Subset.refl _
    · exact within_endNumber b pendingFloat
  | wide => simp [step, LimitedTo, Quote.kind]
  | quoted quote => exact hquotes quote
  | escape quote => exact within_inEscape b List.mem_cons_self
  | octalEscape quote room =>
    rw [step, Step.within_ite]
    refine ⟨fun _ => ?_, fun _ => hquotes quote⟩
    rw [Step.within_shift]
    split <;> simp [LimitedTo]
  | hexEscape quote => simp [step, LimitedTo, hquotes]
  | universal quote missing => cases missing <;> simp [step, LimitedTo]
  | blockComment =>
    rw [step, Step.within_shift]
    split <;> simp [LimitedTo]
  | blockCommentStar =>
    rw [step, Step.within_ite]
    refine ⟨fun _ => by simp [LimitedTo, literalKinds, numberKinds], fun _ => ?_⟩
    rw [Step.within_shift]
    split <;> simp [LimitedTo]
  | _ =>
    simp [step, acceptAmong, LimitedTo, literalKinds, numberKinds, kind]

end State

/-! ### Words that are literals -/

/-- Languages for a kind of literals need to be right in the states that have it in prospect. -/
theorem recognizes_of_prospects (style : Style) {kind : Kind} (hkind : kind ∈ literalKinds)
    {lang : State → Language UInt8} (hlang : ∀ s, kind ∉ s.prospects → lang s = 0)
    (hnil : ∀ s : State, kind ∈ s.prospects → ([] ∈ lang s ↔ s.finalKind style = kind))
    (hcons : ∀ s : State, kind ∈ s.prospects → ∀ b rest,
      b :: rest ∈ lang s ↔ (s.step b).Completes lang rest) :
    (machine style).Recognizes kind lang where
  nil s := by
    by_cases h : kind ∈ State.prospects s
    · exact hnil s h
    · have hfinal : State.finalKind style s ≠ kind := by
        rintro rfl
        exact h (State.finalKind_mem_prospects style s hkind)
      rw [hlang s h]
      exact iff_of_false (Language.notMem_zero []) hfinal
  cons s b rest := by
    by_cases h : kind ∈ State.prospects s
    · exact hcons s h b rest
    · have hnot : ¬(State.step s b).Completes lang rest :=
        (State.within_step s b).not_completes fun next hnext =>
          hlang next fun hmem => h (hnext hmem)
      rw [hlang s h]
      exact iff_of_false (Language.notMem_zero _) hnot

/-- Between tokens every octet begins one. -/
theorem takesAll_machine (style : Style) : (machine style).TakesAll := by
  intro b
  show (State.lead b).isReject = false
  simp [State.lead]

/-- A word without line ends is read as a single literal of a kind if and only if it is in the
language that the state between tokens has for the kind. -/
theorem tokens_eq_literal_iff {style : Style} {kind : Kind} (hkind : kind ∈ literalKinds)
    {lang : State → Language UInt8} (hlang : (machine style).Recognizes kind lang) {word : Bytes}
    (hline : word.IsLine) :
    (machine style).tokens word = [.token kind word false] ↔ word ∈ lang .idle := by
  have hm : (machine style).IsSteady := Format.isSteady_machine style .cpp
  have hidle : ((machine style).finish .idle).1 ≠ kind := by
    intro heq
    have herror : Kind.error = kind := heq
    exact absurd (herror ▸ hkind) (by decide)
  have hwhole := Machine.tokens_eq_singleton_iff hm rfl (takesAll_machine style) hidle hline
  exact hwhole.trans (hlang.kindOf?_eq_some_iff .idle word)

end MarkupFeed.Cpp
