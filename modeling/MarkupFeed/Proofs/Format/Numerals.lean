import MarkupFeed.Proofs.Format.Literals
import MarkupFeed.Proofs.Text.Grammars

/-!
# The number literals of C and C++

`Cpp.numerals` is their grammar, kind by kind: sums and products of classes of octets. The machine
reads a number through a dozen states, and settles the kind of it at the end. The octets that lead
from one of these states to another are listed (`State.Leads`, `State.completes_step`); all others
end the number, or lead out of the numbers for good (`State.within_step`). What may still follow in
a state, for a number of a kind, is a language again (`numeralsFrom`): in front of everything it is
the grammar, and against the list it is right in every state (`recognizes_numeralsFrom`). Hence the
machine reads a word as one number of a kind if and only if the grammar has it:
`Cpp.tokens_eq_numeral_iff`.
-/

namespace MarkupFeed.Cpp

open Grammar

/-! ### Octets of numbers -/

/-- `1` to `9`. -/
def isNonzeroDigit (b : UInt8) : Bool := Octet.within '1' '9' b

/-- The digits that are none of an octal number. -/
def isHighDigit (b : UInt8) : Bool := Octet.among ['8', '9'] b

section Octets

variable {b : UInt8}

@[grind →] theorem isDigit_excludes : Octet.isDigit b = true →
    isIntSuffix b = false ∧ isFloatSuffix b = false ∧ isExponentMark b = false
      ∧ Octet.among ['x', 'X'] b = false ∧ Octet.among ['+', '-'] b = false
      ∧ b ≠ '.'.toUInt8 := by
  decide +revert

@[grind →] theorem isHexDigit_excludes : Octet.isHexDigit b = true → isIntSuffix b = false := by
  decide +revert

@[grind →] theorem isIntSuffix_excludes : isIntSuffix b = true →
    isExponentMark b = false ∧ Octet.among ['x', 'X'] b = false ∧ b ≠ '.'.toUInt8 := by
  decide +revert

@[grind →] theorem isExponentMark_excludes : isExponentMark b = true →
    isFloatSuffix b = false ∧ Octet.among ['x', 'X'] b = false ∧ b ≠ '.'.toUInt8 := by
  decide +revert

@[grind =] theorem isDigit_iff :
    Octet.isDigit b = true ↔ Octet.isOctalDigit b = true ∨ isHighDigit b = true := by
  decide +revert

@[grind →] theorem isDigit_of_isHighDigit : isHighDigit b = true →
    Octet.isDigit b = true ∧ Octet.isOctalDigit b = false := by
  decide +revert

@[grind =] theorem isNonzeroDigit_iff :
    isNonzeroDigit b = true ↔ Octet.isDigit b = true ∧ b ≠ '0'.toUInt8 := by
  decide +revert

theorem isDigit_zero : Octet.isDigit '0'.toUInt8 = true := by decide

theorem ne_point_of_among : Octet.among ['x', 'X'] b = true → b ≠ '.'.toUInt8 := by
  decide +revert

/-- No word begins with a digit. -/
theorem lead_of_isDigit :
    Octet.isDigit b = true →
      State.lead b = .shift (if b = '0'.toUInt8 then .zero else .decimal) := by
  decide +revert

end Octets

/-! ### The grammar -/

/-- `(0|[1-9][0-9]*)[uUlL]*` -/
def decimals : Language UInt8 :=
  (char '0' + one isNonzeroDigit * many Octet.isDigit) * many isIntSuffix

/-- `0[0-7]+[uUlL]*` -/
def octals : Language UInt8 := char '0' * many1 Octet.isOctalDigit * many isIntSuffix

/-- `0[xX][0-9a-fA-F]+[uUlL]*` -/
def hexadecimals : Language UInt8 :=
  char '0' * one (Octet.among ['x', 'X']) * many1 Octet.isHexDigit * many isIntSuffix

/-- `[eE][+-]?[0-9]+` -/
def exponents : Language UInt8 :=
  one isExponentMark * optional (one (Octet.among ['+', '-'])) * many1 Octet.isDigit

/-- `([0-9]+\.[0-9]*|\.[0-9]+)([eE][+-]?[0-9]+)?[fFlL]?` and `[0-9]+[eE][+-]?[0-9]+[fFlL]?` -/
def floats : Language UInt8 :=
  (many1 Octet.isDigit * char '.' * many Octet.isDigit + char '.' * many1 Octet.isDigit)
      * optional exponents * optional (one isFloatSuffix)
    + many1 Octet.isDigit * exponents * optional (one isFloatSuffix)

/-- The number literals of a kind. -/
def numerals : Kind → Language UInt8
  | .decimalLiteral => decimals
  | .octalLiteral => octals
  | .hexadecimalLiteral => hexadecimals
  | .floatingLiteral => floats
  | _ => 0

/-! ### The transitions of numbers -/

namespace State

/-- Whether an octet leads from a state of a number on to one that the rest of a word completes, if
the words that complete a state are those of its language. -/
def Leads (lang : State → Language UInt8) (rest : Bytes) : State → UInt8 → Prop
  | idle, b =>
    b = '0'.toUInt8 ∧ rest ∈ lang zero
      ∨ isNonzeroDigit b = true ∧ rest ∈ lang decimal
      ∨ b = '.'.toUInt8 ∧ rest ∈ lang dot
  | zero, b =>
    Octet.among ['x', 'X'] b = true ∧ rest ∈ lang hexStart
      ∨ Octet.isOctalDigit b = true ∧ rest ∈ lang octal
      ∨ isHighDigit b = true ∧ rest ∈ lang pendingFloat
      ∨ b = '.'.toUInt8 ∧ rest ∈ lang fraction
      ∨ isExponentMark b = true ∧ rest ∈ lang exponent
      ∨ isIntSuffix b = true ∧ rest ∈ lang (intSuffix .decimalLiteral)
  | decimal, b =>
    Octet.isDigit b = true ∧ rest ∈ lang decimal
      ∨ b = '.'.toUInt8 ∧ rest ∈ lang fraction
      ∨ isExponentMark b = true ∧ rest ∈ lang exponent
      ∨ isIntSuffix b = true ∧ rest ∈ lang (intSuffix .decimalLiteral)
  | octal, b =>
    Octet.isOctalDigit b = true ∧ rest ∈ lang octal
      ∨ isHighDigit b = true ∧ rest ∈ lang pendingFloat
      ∨ b = '.'.toUInt8 ∧ rest ∈ lang fraction
      ∨ isExponentMark b = true ∧ rest ∈ lang exponent
      ∨ isIntSuffix b = true ∧ rest ∈ lang (intSuffix .octalLiteral)
  | pendingFloat, b =>
    Octet.isDigit b = true ∧ rest ∈ lang pendingFloat
      ∨ b = '.'.toUInt8 ∧ rest ∈ lang fraction
      ∨ isExponentMark b = true ∧ rest ∈ lang exponent
  | hexStart, b => Octet.isHexDigit b = true ∧ rest ∈ lang hex
  | hex, b =>
    Octet.isHexDigit b = true ∧ rest ∈ lang hex
      ∨ isIntSuffix b = true ∧ rest ∈ lang (intSuffix .hexadecimalLiteral)
  | intSuffix kind, b => isIntSuffix b = true ∧ rest ∈ lang (intSuffix kind)
  | dot, b => Octet.isDigit b = true ∧ rest ∈ lang fraction
  | fraction, b =>
    Octet.isDigit b = true ∧ rest ∈ lang fraction
      ∨ isExponentMark b = true ∧ rest ∈ lang exponent
      ∨ isFloatSuffix b = true ∧ rest = [] ∧ [] ∈ lang (complete .floatingLiteral)
  | exponent, b =>
    Octet.isDigit b = true ∧ rest ∈ lang exponentDigits
      ∨ Octet.among ['+', '-'] b = true ∧ rest ∈ lang exponentSign
  | exponentSign, b => Octet.isDigit b = true ∧ rest ∈ lang exponentDigits
  | exponentDigits, b =>
    Octet.isDigit b = true ∧ rest ∈ lang exponentDigits
      ∨ isFloatSuffix b = true ∧ rest = [] ∧ [] ∈ lang (complete .floatingLiteral)
  | _, _ => False

/-- Whether a number goes through the state. -/
def isNumeric : State → Bool
  | idle | zero | decimal | octal | pendingFloat | hexStart | hex | intSuffix _ | fraction
  | exponent | exponentSign | exponentDigits | dot | complete _ => true
  | _ => false

theorem isNumeric_of_mem_prospects {kind : Kind} (hkind : kind ∈ numberKinds) {s : State}
    (hs : kind ∈ s.prospects) : s.isNumeric = true := by
  have hquote : ∀ quote : Quote, kind ≠ quote.kind := by
    rintro quote rfl
    cases quote <;> exact absurd hkind (by decide)
  cases s with
  | wide =>
    have hwide : kind = .characterLiteral ∨ kind = .stringLiteral := by simpa [prospects] using hs
    rcases hwide with rfl | rfl <;> exact absurd hkind (by decide)
  | quoted quote | escape quote | octalEscape quote _ | hexEscapeStart quote | hexEscape quote
  | universal quote _ => exact absurd (List.mem_singleton.mp hs) (hquote quote)
  | _ => simp_all [isNumeric, prospects]

section Transitions

variable {kind : Kind} {lang : State → Language UInt8}
  (hlang : ∀ s, kind ∉ s.prospects → lang s = 0) (b : UInt8) (rest : Bytes)

include hlang

theorem not_mem_of_prospects {s : State} (h : kind ∉ s.prospects) : rest ∉ lang s := by
  rw [hlang s h]
  exact Language.notMem_zero rest

theorem completes_fail : (fail b).Completes lang rest ↔ False := by
  have herror : rest ∉ lang error := not_mem_of_prospects hlang rest (by simp [prospects])
  simp [fail, herror]

theorem completes_endNumber (number : State) :
    (endNumber number b).Completes lang rest ↔ False := by
  have herror : rest ∉ lang error := not_mem_of_prospects hlang rest (by simp [prospects])
  simp [endNumber, herror]

theorem completes_inInteger (number : State) :
    (inInteger number b).Completes lang rest
      ↔ b = '.'.toUInt8 ∧ rest ∈ lang fraction
        ∨ isExponentMark b = true ∧ rest ∈ lang exponent
        ∨ isIntSuffix b = true ∧ rest ∈ lang (intSuffix number.kind) := by
  have hend := completes_endNumber hlang b rest number
  unfold inInteger toFloat?
  split <;> grind [Step.completes_shift]

variable (hkind : kind ∈ numberKinds)

include hkind

/-- A number begins with a digit, or with a point. -/
theorem completes_lead : (lead b).Completes lang rest ↔ idle.Leads lang rest b := by
  rw [Leads]
  by_cases hdigit : Octet.isDigit b = true
  · rw [lead_of_isDigit hdigit]
    grind [Step.completes_shift]
  have hzero : b ≠ '0'.toUInt8 := fun h => hdigit (h ▸ isDigit_zero)
  by_cases hdot : b = '.'.toUInt8
  · have hlead : lead b = .shift dot := by
      subst hdot
      decide
    rw [hlead, Step.completes_shift]
    grind
  · have hwithin : (lead b).Within fun next => kind ∉ next.prospects := by
      simp only [numberKinds, List.mem_cons, List.not_mem_nil, or_false] at hkind
      rcases hkind with rfl | rfl | rfl | rfl
      all_goals simp [lead, hzero, hdigit, hdot, prospects, literalKinds, numberKinds, Quote.kind]
    have hnot : ¬(lead b).Completes lang rest := hwithin.not_completes hlang
    grind

/-- The machine goes through a number by the transitions that are listed. -/
theorem completes_step {s : State} (hs : s.isNumeric = true) :
    (s.step b).Completes lang rest ↔ s.Leads lang rest b := by
  have hfail := completes_fail hlang b rest
  have hend := completes_endNumber hlang b rest
  have hinteger := completes_inInteger hlang b rest
  cases s with
  | idle => exact completes_lead hlang b rest hkind
  | zero =>
    have hmark : Octet.among ['x', 'X'] b = true → b ≠ '.'.toUInt8 := ne_point_of_among
    grind [step, Leads, State.kind, Step.completes_shift]
  | decimal | octal => grind [step, Leads, State.kind, Step.completes_shift]
  | pendingFloat =>
    unfold step toFloat?
    grind [Leads, Step.completes_shift]
  | dot =>
    have hdots : rest ∉ lang dots := not_mem_of_prospects hlang rest (by simp [prospects])
    have hoperator : [] ∉ lang (complete .operator) :=
      not_mem_of_prospects hlang [] (by simp [prospects, literalKinds, numberKinds])
    grind [step, Leads, acceptAmong, State.kind, Step.completes_shift, Step.completes_accept,
      Step.completes_reject]
  | hexStart | hex | intSuffix kind | fraction | exponent | exponentSign | exponentDigits =>
    grind [step, Leads, Step.completes_shift, Step.completes_accept]
  | complete kind => simp [step, Leads]
  | _ => exact absurd hs (by simp [isNumeric])

end Transitions

end State

/-! ### What may follow in a number -/

/-- What is left of a floating-point number with digits in front of its point or exponent. -/
def floatsFrom : Language UInt8 :=
  many Octet.isDigit
    * (char '.' * many Octet.isDigit * optional exponents * optional (one isFloatSuffix)
      + exponents * optional (one isFloatSuffix))

/-- What is left, in a state, of a number of the kind. -/
def numeralsFrom (kind : Kind) : State → Language UInt8
  | .idle => numerals kind
  | .zero =>
    match kind with
    | .decimalLiteral => many isIntSuffix
    | .octalLiteral => many1 Octet.isOctalDigit * many isIntSuffix
    | .hexadecimalLiteral =>
      one (Octet.among ['x', 'X']) * many1 Octet.isHexDigit * many isIntSuffix
    | .floatingLiteral => floatsFrom
    | _ => 0
  | .decimal =>
    match kind with
    | .decimalLiteral => many Octet.isDigit * many isIntSuffix
    | .floatingLiteral => floatsFrom
    | _ => 0
  | .octal =>
    match kind with
    | .octalLiteral => many Octet.isOctalDigit * many isIntSuffix
    | .floatingLiteral => floatsFrom
    | _ => 0
  | .pendingFloat => if kind = .floatingLiteral then floatsFrom else 0
  | .hexStart =>
    if kind = .hexadecimalLiteral then many1 Octet.isHexDigit * many isIntSuffix else 0
  | .hex => if kind = .hexadecimalLiteral then many Octet.isHexDigit * many isIntSuffix else 0
  | .intSuffix integer => if kind = integer then many isIntSuffix else 0
  | .dot =>
    if kind = .floatingLiteral then
      many1 Octet.isDigit * optional exponents * optional (one isFloatSuffix)
    else 0
  | .fraction =>
    if kind = .floatingLiteral then
      many Octet.isDigit * optional exponents * optional (one isFloatSuffix)
    else 0
  | .exponent =>
    if kind = .floatingLiteral then
      optional (one (Octet.among ['+', '-'])) * many1 Octet.isDigit * optional (one isFloatSuffix)
    else 0
  | .exponentSign =>
    if kind = .floatingLiteral then many1 Octet.isDigit * optional (one isFloatSuffix) else 0
  | .exponentDigits =>
    if kind = .floatingLiteral then many Octet.isDigit * optional (one isFloatSuffix) else 0
  | .complete whole => if kind = whole then 1 else 0
  | _ => 0

section Recognition

variable {kind : Kind} (hkind : kind ∈ numberKinds)

include hkind

theorem numeralsFrom_of_not_mem (s : State) (h : kind ∉ s.prospects) :
    numeralsFrom kind s = 0 := by
  have hliteral : kind ∈ literalKinds := List.mem_append_left _ hkind
  cases s with
  | intSuffix whole | complete whole =>
    have hne : kind ≠ whole := by
      rintro rfl
      exact h (by simpa [State.prospects] using hliteral)
    exact if_neg hne
  | _ =>
    simp only [numberKinds, List.mem_cons, List.not_mem_nil, or_false] at hkind
    rcases hkind with rfl | rfl | rfl | rfl
    all_goals first | rfl | exact absurd h (by decide)

/-- Where a number may end. -/
theorem nil_mem_numeralsFrom_iff (style : Style) {s : State} (hs : s.isNumeric = true) :
    [] ∈ numeralsFrom kind s ↔ s.finalKind style = kind := by
  simp only [numberKinds, List.mem_cons, List.not_mem_nil, or_false] at hkind
  cases s with
  | idle =>
    rcases hkind with rfl | rfl | rfl | rfl
    · simp [numeralsFrom, numerals, decimals, add_mul, mul_assoc, Language.mem_add,
        State.finalKind, State.kind]
    · simp [numeralsFrom, numerals, octals, mul_assoc, State.finalKind, State.kind]
    · simp [numeralsFrom, numerals, hexadecimals, mul_assoc, State.finalKind, State.kind]
    · simp [numeralsFrom, numerals, floats, exponents, add_mul, mul_assoc, Language.mem_add,
        State.finalKind, State.kind]
  | intSuffix integer =>
    by_cases h : kind = integer <;> simp [numeralsFrom, State.finalKind, State.kind, h, eq_comm]
  | complete whole =>
    by_cases h : kind = whole <;> simp [numeralsFrom, State.finalKind, State.kind, h, eq_comm]
  | _ =>
    rcases hkind with rfl | rfl | rfl | rfl
    all_goals simp [numeralsFrom, floatsFrom, exponents, mul_add, mul_assoc, Language.mem_add,
      State.finalKind, State.kind, State.isNumeric] at hs ⊢

/-- How a number goes on. -/
theorem cons_mem_numeralsFrom_iff {s : State} (hs : s.isNumeric = true) (b : UInt8) (rest : Bytes) :
    b :: rest ∈ numeralsFrom kind s ↔ (s.step b).Completes (numeralsFrom kind) rest := by
  rw [State.completes_step (numeralsFrom_of_not_mem hkind) b rest hkind hs]
  simp only [numberKinds, List.mem_cons, List.not_mem_nil, or_false] at hkind
  cases s with
  | idle =>
    have hzero := isDigit_zero
    rcases hkind with rfl | rfl | rfl | rfl
    · simp [State.Leads, numeralsFrom, numerals, decimals, add_mul, mul_assoc, Language.mem_add]
    · simp [State.Leads, numeralsFrom, numerals, octals, mul_assoc]
    · simp [State.Leads, numeralsFrom, numerals, hexadecimals, mul_assoc]
    · simp [State.Leads, numeralsFrom, numerals, floats, floatsFrom, exponents, add_mul, mul_add,
        mul_assoc, Language.mem_add]
      grind
  | zero | decimal | octal | pendingFloat =>
    rcases hkind with rfl | rfl | rfl | rfl
    all_goals
      simp [State.Leads, numeralsFrom, floatsFrom, exponents, mul_add, mul_assoc, Language.mem_add]
    all_goals grind
  | hexStart | dot | exponent | exponentSign =>
    rcases hkind with rfl | rfl | rfl | rfl <;> simp [State.Leads, numeralsFrom, mul_assoc]
  | hex | fraction | exponentDigits =>
    rcases hkind with rfl | rfl | rfl | rfl
    all_goals simp [State.Leads, numeralsFrom, exponents, mul_assoc]
    all_goals grind
  | intSuffix integer => by_cases h : kind = integer <;> simp [State.Leads, numeralsFrom, h]
  | complete whole => by_cases h : kind = whole <;> simp [State.Leads, numeralsFrom, h]
  | _ => exact absurd hs (by simp [State.isNumeric])

/-- What is left of a number is recognized, in every state. -/
theorem recognizes_numeralsFrom (style : Style) :
    (machine style).Recognizes kind (numeralsFrom kind) := by
  have hliteral : kind ∈ literalKinds := List.mem_append_left _ hkind
  refine recognizes_of_prospects style hliteral (numeralsFrom_of_not_mem hkind) ?_ ?_
  · intro s hs
    exact nil_mem_numeralsFrom_iff hkind style (State.isNumeric_of_mem_prospects hkind hs)
  · intro s hs b rest
    exact cons_mem_numeralsFrom_iff hkind (State.isNumeric_of_mem_prospects hkind hs) b rest

end Recognition

/-! ### Words that are numbers -/

/-- A word without line ends is read as a single token, a number literal of a kind, if and only if
the grammar has it as a literal of this kind. -/
theorem tokens_eq_numeral_iff (style : Style) {word : Bytes} (hline : word.IsLine) {kind : Kind}
    (hkind : kind ∈ numberKinds) :
    (machine style).tokens word = [.token kind word false] ↔ word ∈ numerals kind := by
  have hliteral : kind ∈ literalKinds := List.mem_append_left _ hkind
  exact tokens_eq_literal_iff hliteral (recognizes_numeralsFrom hkind style) hline

/-- Digits behind a leading `0` that are not octal make a number if a point follows. -/
theorem mem_numerals_of_tokens :
    let word := Bytes.ascii "09.5e+1L"
    word.IsLine ∧ .floatingLiteral ∈ numberKinds ∧ word ∈ numerals .floatingLiteral := by
  have hline : (Bytes.ascii "09.5e+1L").IsLine := by decide
  have hkind : Kind.floatingLiteral ∈ numberKinds := by decide
  have htokens : (machine Format.defaultStyle).tokens (Bytes.ascii "09.5e+1L")
      = [.token .floatingLiteral (Bytes.ascii "09.5e+1L") false] := by decide
  exact ⟨hline, hkind, (tokens_eq_numeral_iff Format.defaultStyle hline hkind).mp htokens⟩

end MarkupFeed.Cpp
