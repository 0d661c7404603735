import MarkupFeed.Proofs.Format.Literals
import MarkupFeed.Proofs.Text.Grammars

/-!
# The literals in quotes of C and C++

`Cpp.literals` is the grammar of the literals between quotes of one kind. The machine does not count
the digits of an octal or hexadecimal escape to know where the escape ends: a digit stands for
itself in quotes as well, and a grammar that takes it into the escape has no more literals than one
that does not (`many_mul_closings`). So in most states the same may follow as outside escapes, and a
word is read as one literal if and only if the grammar has it: `Cpp.tokens_eq_quoted_iff`.
-/

namespace MarkupFeed.Cpp

open Grammar
open Computability

/-! ### The grammar -/

/-- An octet that stands for itself between the quotes. -/
def isPlain (quote : Quote) (b : UInt8) : Bool := b != Octet.backslash && b != quote.delimiter

/-- What may follow a backslash: one of `'"?\abfnrtv`, one to three octal digits, `x` and
hexadecimal digits, `u` and four of them, or `U` and eight. -/
def escapes : Language UInt8 :=
  one (Octet.among ['\'', '"', '?', '\\', 'a', 'b', 'f', 'n', 'r', 't', 'v'])
    + one Octet.isOctalDigit * optional (one Octet.isOctalDigit) * optional (one Octet.isOctalDigit)
    + char 'x' * many1 Octet.isHexDigit
    + char 'u' * one Octet.isHexDigit ^ 4
    + char 'U' * one Octet.isHexDigit ^ 8

/-- What a literal is made of between its quotes. -/
def items (quote : Quote) : Language UInt8 :=
  one (isPlain quote) + one (· == Octet.backslash) * escapes

/-- A literal from behind its first quote on. -/
def closings (quote : Quote) : Language UInt8 := (items quote)∗ * one (· == quote.delimiter)

/-- A literal in quotes, wide or not. -/
def literals (quote : Quote) : Language UInt8 :=
  optional (char 'L') * one (· == quote.delimiter) * (items quote)∗ * one (· == quote.delimiter)

/-! ### What may follow between the quotes -/

section Octets

variable {b : UInt8} {quote : Quote}

theorem isPlain_of_isHexDigit : Octet.isHexDigit b = true → isPlain quote b = true := by
  cases quote <;> decide +revert

theorem isHexDigit_of_isOctalDigit : Octet.isOctalDigit b = true → Octet.isHexDigit b = true := by
  decide +revert

end Octets

variable {quote : Quote} {b : UInt8} {rest : Bytes}

theorem nil_mem_closings : [] ∈ closings quote ↔ False := by
  rw [closings, mem_kstar_mul, items, mem_add_mul, mul_assoc]
  simp

/-- Between the quotes an octet stands for itself, begins an escape, or closes the literal. -/
theorem cons_mem_closings : b :: rest ∈ closings quote
    ↔ b = quote.delimiter ∧ rest = []
      ∨ isPlain quote b = true ∧ rest ∈ closings quote
      ∨ b = Octet.backslash ∧ rest ∈ escapes * closings quote := by
  rw [closings, mem_kstar_mul, items, mem_add_mul, mul_assoc (one _) escapes]
  simp

/-- An octet that stands for itself may stand in front of everything. -/
theorem cons_mem_closings_of_isPlain (hb : isPlain quote b = true) :
    b :: rest ∈ closings quote ↔ rest ∈ closings quote := by
  have hne : b ≠ Octet.backslash ∧ b ≠ quote.delimiter := by simpa [isPlain] using hb
  simp [cons_mem_closings, hb, hne.1, hne.2]

/-- Hexadecimal digits in front of the rest of a literal belong to the rest as well. -/
theorem many_mul_closings (quote : Quote) :
    many Octet.isHexDigit * closings quote = closings quote := by
  ext text
  induction text with
  | nil => exact nil_mem_many_mul
  | cons b rest ih =>
    rw [cons_mem_many_mul, ih]
    constructor
    · rintro (h | ⟨hb, hrest⟩)
      · exact h
      · exact (cons_mem_closings_of_isPlain (isPlain_of_isHexDigit hb)).mpr hrest
    · exact .inl

/-- So does an octal digit. -/
theorem optional_mul_closings (quote : Quote) :
    optional (one Octet.isOctalDigit) * closings quote = closings quote := by
  ext text
  rw [mem_optional_mul]
  constructor
  · rintro (h | h)
    · exact h
    cases text with
    | nil => exact absurd h (by simp)
    | cons b rest =>
      obtain ⟨hb, hrest⟩ := cons_mem_one_mul.mp h
      have hhex : Octet.isHexDigit b = true := isHexDigit_of_isOctalDigit hb
      exact (cons_mem_closings_of_isPlain (isPlain_of_isHexDigit hhex)).mpr hrest
  · exact .inl

theorem nil_mem_escapes_mul {l : Language UInt8} : [] ∈ escapes * l ↔ False := by
  simp only [escapes, add_mul, mul_assoc, Language.mem_add, nil_mem_one_mul, nil_mem_char_mul,
    or_self]

/-- Behind a backslash an escape goes on by the octet that comes first. -/
theorem cons_mem_escapes_mul : b :: rest ∈ escapes * closings quote
    ↔ Octet.among ['\'', '"', '?', '\\', 'a', 'b', 'f', 'n', 'r', 't', 'v'] b = true
        ∧ rest ∈ closings quote
      ∨ Octet.isOctalDigit b = true ∧ rest ∈ closings quote
      ∨ b = 'x'.toUInt8 ∧ rest ∈ many1 Octet.isHexDigit * closings quote
      ∨ b = 'u'.toUInt8 ∧ rest ∈ one Octet.isHexDigit ^ 4 * closings quote
      ∨ b = 'U'.toUInt8 ∧ rest ∈ one Octet.isHexDigit ^ 8 * closings quote := by
  simp only [escapes, add_mul, mul_assoc, Language.mem_add, cons_mem_one_mul, cons_mem_char_mul,
    optional_mul_closings, or_assoc]

theorem mem_literals {text : Bytes} : text ∈ literals quote
    ↔ text ∈ one (· == quote.delimiter) * closings quote
      ∨ text ∈ char 'L' * (one (· == quote.delimiter) * closings quote) := by
  rw [literals, mul_assoc, mul_assoc, mem_optional_mul]
  rfl

/-! ### What may follow in a state -/

/-- What is left, in a state, of a literal in the quotes. -/
def literalsFrom (quote : Quote) : State → Language UInt8
  | .idle => literals quote
  | .wide => one (· == quote.delimiter) * closings quote
  | .quoted other | .octalEscape other _ | .hexEscape other =>
    if quote = other then closings quote else 0
  | .escape other => if quote = other then escapes * closings quote else 0
  | .hexEscapeStart other =>
    if quote = other then many1 Octet.isHexDigit * closings quote else 0
  | .universal other missing =>
    if quote = other then one Octet.isHexDigit ^ (missing + 1) * closings quote else 0
  | .intSuffix kind => if quote.kind = kind then many isIntSuffix else 0
  | .complete kind => if quote.kind = kind then 1 else 0
  | _ => 0

theorem literalsFrom_of_not_mem (s : State) (h : quote.kind ∉ s.prospects) :
    literalsFrom quote s = 0 := by
  have hliteral : quote.kind ∈ literalKinds := quote.kind_mem
  cases s with
  | idle => exact absurd hliteral h
  | wide => cases quote <;> exact absurd h (by decide)
  | intSuffix kind | complete kind =>
    have hne : quote.kind ≠ kind := by
      rintro rfl
      exact h (by simpa [State.prospects] using hliteral)
    exact if_neg hne
  | quoted other | escape other | octalEscape other _ | hexEscapeStart other | hexEscape other
  | universal other _ =>
    have hne : quote ≠ other := by
      rintro rfl
      exact h List.mem_cons_self
    exact if_neg hne
  | _ => rfl

/-! ### The steps between the quotes -/

/-- A literal begins with its quote, or with an `L` in front of it. -/
theorem completes_lead : (State.lead b).Completes (literalsFrom quote) rest
    ↔ b :: rest ∈ literals quote := by
  have hne : quote.delimiter ≠ 'L'.toUInt8 := by cases quote <;> decide
  rw [mem_literals, cons_mem_one_mul, cons_mem_char_mul, beq_iff_eq]
  by_cases hdelimiter : b = quote.delimiter
  · have hlead : State.lead b = .shift (.quoted quote) := by
      rw [hdelimiter]
      cases quote <;> decide
    rw [hlead, Step.completes_shift]
    simp [literalsFrom, hdelimiter, hne]
  by_cases hL : b = 'L'.toUInt8
  · have hlead : State.lead b = .shift .wide := if_pos hL
    rw [hlead, Step.completes_shift]
    simp [literalsFrom, hL, hne.symm]
  · have hwithin : (State.lead b).Within fun next => quote.kind ∉ next.prospects := by
      cases quote <;> simp [State.lead, hL, hdelimiter, State.prospects, literalKinds, numberKinds,
        Quote.kind]
    have hnot : ¬(State.lead b).Completes (literalsFrom quote) rest :=
      hwithin.not_completes literalsFrom_of_not_mem
    simp [hnot, hdelimiter, hL]

theorem completes_wide : (State.step .wide b).Completes (literalsFrom quote) rest
    ↔ b = quote.delimiter ∧ rest ∈ closings quote := by
  by_cases hdelimiter : b = quote.delimiter
  · have hstep : State.step .wide b = .shift (.quoted quote) := by
      rw [hdelimiter]
      cases quote <;> decide
    rw [hstep, Step.completes_shift]
    simp [literalsFrom, hdelimiter]
  · have hwithin : (State.step .wide b).Within fun next => quote.kind ∉ next.prospects := by
      cases quote <;> simp [State.step, hdelimiter, State.prospects, Quote.kind]
    have hnot : ¬(State.step .wide b).Completes (literalsFrom quote) rest :=
      hwithin.not_completes literalsFrom_of_not_mem
    simp [hnot, hdelimiter]

theorem completes_inQuotes : (State.inQuotes quote b).Completes (literalsFrom quote) rest
    ↔ b :: rest ∈ closings quote := by
  have hdelimiter : quote.delimiter ≠ Octet.backslash := by cases quote <;> decide
  have hcomplete : [] ∈ literalsFrom quote (.complete quote.kind) := by simp [literalsFrom]
  rw [cons_mem_closings]
  unfold State.inQuotes
  grind [isPlain, literalsFrom, Step.completes_shift, Step.completes_accept]

theorem completes_inEscape : (State.inEscape quote b).Completes (literalsFrom quote) rest
    ↔ b :: rest ∈ escapes * closings quote := by
  -- the three letters are told apart from each other and from the octets before them
  have hletters : 'x'.toUInt8 ≠ 'u'.toUInt8 ∧ 'x'.toUInt8 ≠ 'U'.toUInt8
      ∧ 'u'.toUInt8 ≠ 'U'.toUInt8 := by
    decide
  have hothers : b = 'x'.toUInt8 ∨ b = 'u'.toUInt8 ∨ b = 'U'.toUInt8 →
      Octet.among ['\'', '"', '?', '\\', 'a', 'b', 'f', 'n', 'r', 't', 'v'] b = false
        ∧ Octet.isOctalDigit b = false := by
    rintro (rfl | rfl | rfl) <;> decide
  have herror : rest ∉ literalsFrom quote .error := Language.notMem_zero rest
  rw [cons_mem_escapes_mul]
  unfold State.inEscape State.fail
  grind [literalsFrom, Step.completes_shift, Step.completes_reject]

/-! ### Words that are literals in quotes -/

/-- A state in quotes has no other literal in prospect. -/
theorem eq_of_mem_prospects {other : Quote} (h : quote.kind ∈ [other.kind]) : quote = other := by
  cases quote <;> cases other <;> first | rfl | exact absurd h (by decide)

/-- No literal ends before its quote. -/
theorem nil_mem_literalsFrom_iff (style : Style) {s : State} (hs : quote.kind ∈ s.prospects) :
    [] ∈ literalsFrom quote s ↔ s.finalKind style = quote.kind := by
  have herror : Kind.error ≠ quote.kind := by cases quote <;> decide
  cases s with
  | idle =>
    refine iff_of_false ?_ herror
    simp [literalsFrom, mem_literals]
  | wide =>
    have hword : classify style ['L'.toUInt8] ≠ quote.kind := fun h =>
      classify_not_mem style _ (h ▸ quote.kind_mem)
    exact iff_of_false (by simp [literalsFrom]) hword
  | intSuffix kind | complete kind =>
    by_cases h : quote.kind = kind <;> simp [literalsFrom, State.finalKind, State.kind, h, Ne.symm]
  | quoted other | octalEscape other _ | hexEscape other =>
    obtain rfl := eq_of_mem_prospects hs
    exact iff_of_false (by simp [literalsFrom, nil_mem_closings]) herror
  | escape other =>
    obtain rfl := eq_of_mem_prospects hs
    exact iff_of_false (by simp [literalsFrom, nil_mem_escapes_mul]) herror
  | hexEscapeStart other =>
    obtain rfl := eq_of_mem_prospects hs
    exact iff_of_false (by simp [literalsFrom]) herror
  | universal other missing =>
    obtain rfl := eq_of_mem_prospects hs
    exact iff_of_false (by simp [literalsFrom, pow_succ', mul_assoc]) herror
  | _ => exact absurd hs (by cases quote <;> simp [State.prospects, numberKinds, Quote.kind])

theorem cons_mem_literalsFrom_iff {s : State} (hs : quote.kind ∈ s.prospects) (b : UInt8)
    (rest : Bytes) :
    b :: rest ∈ literalsFrom quote s ↔ (s.step b).Completes (literalsFrom quote) rest := by
  have herror : rest ∉ literalsFrom quote .error := Language.notMem_zero rest
  have hfail : ¬(State.fail b).Completes (literalsFrom quote) rest := by
    simp [State.fail, herror]
  cases s with
  | idle => exact completes_lead.symm
  | wide => rw [completes_wide, literalsFrom, cons_mem_one_mul, beq_iff_eq]
  | quoted other =>
    obtain rfl := eq_of_mem_prospects hs
    rw [State.step, completes_inQuotes, literalsFrom, if_pos rfl]
  | escape other =>
    obtain rfl := eq_of_mem_prospects hs
    rw [State.step, completes_inEscape, literalsFrom, if_pos rfl]
  | octalEscape other room =>
    obtain rfl := eq_of_mem_prospects hs
    rw [State.step, Step.completes_ite, completes_inQuotes, literalsFrom, if_pos rfl]
    split
    · next hb =>
      -- wherever the escape ends, the digit belongs to the literal
      have hplain : isPlain quote b = true := isPlain_of_isHexDigit (isHexDigit_of_isOctalDigit hb)
      rw [cons_mem_closings_of_isPlain hplain, Step.completes_shift]
      split <;> simp [literalsFrom]
    · exact Iff.rfl
  | hexEscape other =>
    obtain rfl := eq_of_mem_prospects hs
    rw [State.step, Step.completes_ite, completes_inQuotes, literalsFrom, if_pos rfl]
    split
    · next hb =>
      rw [cons_mem_closings_of_isPlain (isPlain_of_isHexDigit hb), Step.completes_shift]
      simp [literalsFrom]
    · exact Iff.rfl
  | hexEscapeStart other =>
    obtain rfl := eq_of_mem_prospects hs
    rw [State.step, Step.completes_ite, literalsFrom, if_pos rfl, cons_mem_many1_mul,
      many_mul_closings]
    simp [literalsFrom, hfail]
  | universal other missing =>
    obtain rfl := eq_of_mem_prospects hs
    cases missing <;> simp [State.step, literalsFrom, pow_succ', mul_assoc, hfail]
  | intSuffix kind =>
    by_cases h : quote.kind = kind <;> simp [State.step, State.endNumber, literalsFrom, h]
  | complete kind => by_cases h : quote.kind = kind <;> simp [State.step, literalsFrom, h]
  | _ => exact absurd hs (by cases quote <;> simp [State.prospects, numberKinds, Quote.kind])

/-- What is left of a literal in quotes is recognized, in every state. -/
theorem recognizes_literalsFrom (style : Style) (quote : Quote) :
    (machine style).Recognizes quote.kind (literalsFrom quote) := by
  refine recognizes_of_prospects style quote.kind_mem literalsFrom_of_not_mem ?_ ?_
  · intro s hs
    exact nil_mem_literalsFrom_iff style hs
  · intro s hs b rest
    exact cons_mem_literalsFrom_iff hs b rest

/-- A word without line ends is read as a single token, a literal in the quotes, if and only if the
grammar has it. -/
theorem tokens_eq_quoted_iff (style : Style) (quote : Quote) {word : Bytes}
    (hline : word.IsLine) :
    (machine style).tokens word = [.token quote.kind word false] ↔ word ∈ literals quote :=
  tokens_eq_literal_iff quote.kind_mem (recognizes_literalsFrom style quote) hline

/-- A hexadecimal escape, an octal one in front of a digit, and a quote that is escaped. -/
theorem mem_literals_of_tokens :
    (Bytes.ascii "L\"\\x4aF\\0669\\\"\"").IsLine
      ∧ Bytes.ascii "L\"\\x4aF\\0669\\\"\"" ∈ literals .string := by
  have hline : (Bytes.ascii "L\"\\x4aF\\0669\\\"\"").IsLine := by decide
  have htokens : (machine Format.defaultStyle).tokens (Bytes.ascii "L\"\\x4aF\\0669\\\"\"")
      = [.token Quote.string.kind (Bytes.ascii "L\"\\x4aF\\0669\\\"\"") false] := by
    decide
  exact ⟨hline, (tokens_eq_quoted_iff Format.defaultStyle .string hline).mp htokens⟩

end MarkupFeed.Cpp
