import Mathlib.Data.String.Basic
import MarkupFeed.Registers.Cpp
import MarkupFeed.Proofs.Tokenizer.Simulation

/-!
# What the registers of the C and C++ machine show

The registers of `Cpp.Registers.machine` show a state of `Cpp.machine` (`Registers.Shows`): the
phase and the kind are those of the state, the word register holds the word wherever the state
has one, and is empty between tokens, and the delimiter is that of the literal in progress. Beyond
that a register may hold anything: the word register has an `L` in it during a wide literal, and
the delimiter of the literal before stays for good. Every octet leads from registers that show a
state to registers that show the next one (`Shows.step`), and the end of a token has the same kind
(`Shows.finalKind_eq`), which for a word takes that halving the table of reserved words finds them
all (`isInTable_iff`, `pairwise_keywords`). Together this is `Registers.simulation`.
-/

namespace MarkupFeed.Cpp

/-! ### The table of reserved words -/

/-- The words come in strictly ascending order. -/
theorem pairwise_keywords : keywords.Pairwise (· < ·) := by
  rw [← List.isChain_iff_pairwise]
  decide +kernel

/-- A word of an ordered table parts it into an ordered table of the smaller words and one of the
larger words. -/
theorem halves_of_pairwise {table above : List String} {pivot : String} {place : Nat}
    (h : table.Pairwise (· < ·)) (hsplit : table.drop place = pivot :: above) :
    ((table.take place).Pairwise (· < ·) ∧ ∀ word ∈ table.take place, word < pivot)
      ∧ (above.Pairwise (· < ·) ∧ ∀ word ∈ above, pivot < word)
      ∧ ∀ word, word ∈ table ↔ word ∈ table.take place ∨ word = pivot ∨ word ∈ above := by
  have htable := List.take_append_drop place table
  rw [hsplit] at htable
  rw [← htable, List.pairwise_append, List.pairwise_cons] at h
  obtain ⟨hbelow, ⟨hpivot, habove⟩, hordered⟩ := h
  refine ⟨⟨hbelow, fun word hword => hordered word hword pivot List.mem_cons_self⟩,
    ⟨habove, hpivot⟩, fun word => ?_⟩
  rw [← List.mem_cons, ← List.mem_append, htable]

/-- In a table in strictly ascending order halving finds exactly the words that are there. -/
theorem isInTable_iff {word : String} {table : List String} (h : table.Pairwise (· < ·)) :
    isInTable word table = true ↔ word ∈ table := by
  fun_induction isInTable word table with
  | case1 table hsplit =>
    have hlength : table.length - table.length / 2 = 0 := by
      rw [← List.length_drop, hsplit, List.length_nil]
    obtain rfl : table = [] := List.eq_nil_of_length_eq_zero (by omega)
    simp
  | case2 table above hsplit =>
    have hmem : word ∈ table.drop (table.length / 2) := hsplit ▸ List.mem_cons_self
    exact iff_of_true rfl (List.mem_of_mem_drop hmem)
  | case3 table pivot above hsplit hne hlt ih =>
    obtain ⟨⟨hbelow, -⟩, ⟨-, hpivot⟩, hmem⟩ := halves_of_pairwise h hsplit
    have habove : word ∉ above := fun hword => lt_asymm hlt (hpivot word hword)
    rw [ih hbelow, hmem, or_iff_left (not_or.mpr ⟨hne, habove⟩)]
  | case4 table pivot above hsplit hne hlt ih =>
    obtain ⟨⟨-, hpivot⟩, ⟨habove, -⟩, hmem⟩ := halves_of_pairwise h hsplit
    have hbelow : word ∉ table.take (table.length / 2) := fun hword => hlt (hpivot word hword)
    rw [ih habove, hmem, or_iff_right hbelow, or_iff_right hne]

namespace Registers

/-- Halving the table classifies words as going through it does. -/
theorem classify_eq (style : Style) (word : Bytes) :
    classify style word = Cpp.classify style word := by
  unfold classify Cpp.classify
  cases Utf8.decode? word with
  | none => rfl
  | some text => simp only [isInTable_iff pairwise_keywords]

/-! ### What the registers show -/

/-- The registers show the state. -/
inductive Shows : Registers → State → Prop where
  | idle {d} : Shows ⟨.idle, .error, d, []⟩ .idle
  | identifier {d word} : Shows ⟨.identifier, .identifier, d, word⟩ (.identifier word)
  | wide {d} : Shows ⟨.wide, .identifier, d, ['L'.toUInt8]⟩ .wide
  | zero {d w} : Shows ⟨.zero, .decimalLiteral, d, w⟩ .zero
  | decimal {d w} : Shows ⟨.decimal, .decimalLiteral, d, w⟩ .decimal
  | octal {d w} : Shows ⟨.octal, .octalLiteral, d, w⟩ .octal
  | pendingFloat {d w} : Shows ⟨.pendingFloat, .error, d, w⟩ .pendingFloat
  | hexStart {d w} : Shows ⟨.hexStart, .hexadecimalLiteral, d, w⟩ .hexStart
  | hex {d w} : Shows ⟨.hex, .hexadecimalLiteral, d, w⟩ .hex
  | intSuffix {kind d w} : Shows ⟨.intSuffix, kind, d, w⟩ (.intSuffix kind)
  | fraction {d w} : Shows ⟨.fraction, .floatingLiteral, d, w⟩ .fraction
  | exponent {d w} : Shows ⟨.exponent, .floatingLiteral, d, w⟩ .exponent
  | exponentSign {d w} : Shows ⟨.exponentSign, .floatingLiteral, d, w⟩ .exponentSign
  | exponentDigits {d w} : Shows ⟨.exponentDigits, .floatingLiteral, d, w⟩ .exponentDigits
  | quoted {quote w} : Shows ⟨.quoted, quote.kind, quote.delimiter, w⟩ (.quoted quote)
  | escape {quote w} : Shows ⟨.escape, quote.kind, quote.delimiter, w⟩ (.escape quote)
  | octalEscape {quote w digits room} (h : digits = 1 ∧ room = 2 ∨ digits = 2 ∧ room = 1) :
      Shows ⟨.octalEscape digits, quote.kind, quote.delimiter, w⟩ (.octalEscape quote room)
  | hexEscapeStart {quote w} :
      Shows ⟨.hexEscapeStart, quote.kind, quote.delimiter, w⟩ (.hexEscapeStart quote)
  | hexEscape {quote w} : Shows ⟨.hexEscape, quote.kind, quote.delimiter, w⟩ (.hexEscape quote)
  | universal {quote w} {seen needed : UInt8} {missing}
      (h : seen.toNat + missing + 1 = needed.toNat) :
      Shows ⟨.universal seen needed, quote.kind, quote.delimiter, w⟩ (.universal quote missing)
  | colon {d w} : Shows ⟨.colon, .punctuator, d, w⟩ .colon
  | percent {d w} : Shows ⟨.percent, .operator, d, w⟩ .percent
  | minus {d w} : Shows ⟨.minus, .operator, d, w⟩ .minus
  | arrow {d w} : Shows ⟨.arrow, .operator, d, w⟩ .arrow
  | mayAssign {d w} : Shows ⟨.twin '='.toUInt8, .operator, d, w⟩ .mayAssign
  | hash {d w} : Shows ⟨.twin '#'.toUInt8, .preprocessing, d, w⟩ .hash
  | mayDoubleOrAssign {first d w} :
      Shows ⟨.twinOrAssign first, .operator, d, w⟩ (.mayDoubleOrAssign first)
  | divide {d w} : Shows ⟨.divide, .operator, d, w⟩ .divide
  | lineComment {d w} : Shows ⟨.lineComment, .comment, d, w⟩ .lineComment
  | blockComment {d w} : Shows ⟨.blockComment, .comment, d, w⟩ .blockComment
  | blockCommentStar {d w} : Shows ⟨.blockCommentStar, .comment, d, w⟩ .blockCommentStar
  | greater {d w} : Shows ⟨.greater, .operator, d, w⟩ .greater
  | shiftOperator {d w} : Shows ⟨.shiftOperator, .operator, d, w⟩ .shiftOperator
  | less {d w} : Shows ⟨.less, .operator, d, w⟩ .less
  | dot {d w} : Shows ⟨.dot, .operator, d, w⟩ .dot
  | dots {d w} : Shows ⟨.dots, .operator, d, w⟩ .dots
  | spaces {d w} : Shows ⟨.spaces, .space, d, w⟩ .spaces
  | tabs {d w} : Shows ⟨.tabs, .tab, d, w⟩ .tabs
  | error {d w} : Shows ⟨.error, .error, d, w⟩ .error
  | complete {kind d w} : Shows ⟨.complete, kind, d, w⟩ (.complete kind)

/-! ### One octet -/

section Step

variable {r : Registers} {q : State} {quote : Quote} {w : Bytes}

/-- What becomes of an octet shows what the machine makes of it. -/
abbrev Agrees (advanced : Step Registers) (step : Step State) : Prop :=
  Step.Related Shows Shows (completed advanced) step

theorem Shows.kind_eq (h : Shows r q) : r.kind = q.kind := by
  cases h <;> rfl

/-- Both look at the same condition first. -/
theorem agrees_ite {c : Prop} [Decidable c] {x y : Step Registers} {s t : Step State}
    (hthen : c → Agrees x s) (helse : ¬c → Agrees y t) :
    Agrees (if c then x else y) (if c then s else t) := by
  rw [Agrees, apply_ite completed]
  exact .ite hthen helse

theorem agrees_fail (r : Registers) (b : UInt8) : Agrees (r.fail b) (State.fail b) := by
  unfold fail State.fail
  split_ifs
  · exact .reject .error
  · exact .shift .error

theorem agrees_number {kind : Kind} (h : Shows { r with kind } q) (b : UInt8) :
    Agrees (r.number b kind) (State.endNumber q b) := by
  unfold number State.endNumber fail
  split_ifs
  · exact .reject h
  · exact .shift .error

/-- A point or an exponent makes a float of the number. -/
theorem agrees_toFloat (r : Registers) {b : UInt8} {x : Step Registers} {s : Step State}
    (hsome : ∀ next, State.toFloat? b = some next → s = .shift next)
    (hnone : State.toFloat? b = none → Agrees x s) :
    Agrees
      (if b = '.'.toUInt8 then r.go .fraction .floatingLiteral
        else if isExponentMark b then r.go .exponent .floatingLiteral
        else x) s := by
  unfold State.toFloat? at hsome hnone
  split_ifs at hsome hnone ⊢
  · exact hsome .fraction rfl ▸ .shift .fraction
  · exact hsome .exponent rfl ▸ .shift .exponent
  · exact hnone rfl

theorem agrees_inInteger (h : Shows r q) (b : UInt8) :
    Agrees (r.inInteger b q.kind) (State.inInteger q b) := by
  refine agrees_toFloat r (fun next hnext => ?_) fun hnone => ?_
  · rw [State.inInteger, hnext]
  · rw [State.inInteger, hnone]
    refine agrees_ite (fun _ => .shift Shows.intSuffix) fun _ => agrees_number ?_ b
    rw [← h.kind_eq]
    exact h

theorem agrees_acceptAmong (h : Shows r q) (chars : List Char) (b : UInt8) :
    Agrees (r.acceptAmong chars b) (q.acceptAmong chars b) := by
  unfold acceptAmong State.acceptAmong
  split_ifs
  · exact .accept (h.kind_eq ▸ .complete)
  · exact .reject h

theorem agrees_inQuotes (quote : Quote) (w : Bytes) (b : UInt8) :
    Agrees (inQuotes ⟨.quoted, quote.kind, quote.delimiter, w⟩ b) (State.inQuotes quote b) := by
  unfold inQuotes State.inQuotes
  split_ifs
  · exact .shift .escape
  · exact .accept .complete
  · exact .shift .quoted

theorem agrees_inEscape (quote : Quote) (w : Bytes) (b : UInt8) :
    Agrees (inEscape ⟨.escape, quote.kind, quote.delimiter, w⟩ b) (State.inEscape quote b) := by
  unfold inEscape State.inEscape
  split_ifs
  · exact .shift .quoted
  · exact .shift (.octalEscape (.inl ⟨rfl, rfl⟩))
  · exact .shift .hexEscapeStart
  · exact .shift (.universal rfl)
  · exact .shift (.universal rfl)
  · exact agrees_fail _ b

theorem agrees_octalEscape {digits : UInt8} {room : Nat}
    (h : digits = 1 ∧ room = 2 ∨ digits = 2 ∧ room = 1) (b : UInt8) :
    Agrees (advance ⟨.octalEscape digits, quote.kind, quote.delimiter, w⟩ b)
      (State.step (.octalEscape quote room) b) := by
  have hdigits : digits < 3 := by
    rcases h with ⟨rfl, -⟩ | ⟨rfl, -⟩ <;> decide
  simp only [advance, State.step, hdigits, and_true]
  refine agrees_ite (fun _ => ?_) fun _ => agrees_inQuotes quote w b
  rcases h with ⟨rfl, rfl⟩ | ⟨rfl, rfl⟩
  · exact .shift (.octalEscape (.inr ⟨rfl, rfl⟩))
  · exact .shift .quoted

theorem agrees_universal {seen needed : UInt8} {missing : Nat}
    (h : seen.toNat + missing + 1 = needed.toNat) (b : UInt8) :
    Agrees (advance ⟨.universal seen needed, quote.kind, quote.delimiter, w⟩ b)
      (State.step (.universal quote missing) b) := by
  refine agrees_ite (fun _ => ?_) fun _ => agrees_fail _ b
  have hneeded := needed.toNat_lt
  have hseen : (seen + 1).toNat = seen.toNat + 1 := by
    rw [UInt8.toNat_add, UInt8.toNat_one]
    omega
  cases missing with
  | zero =>
    rw [if_pos (UInt8.toNat_inj.mp (by omega))]
    exact .shift .quoted
  | succ missing =>
    rw [if_neg fun hlast => by rw [← hlast] at h; omega]
    exact .shift (.universal (by omega))

theorem agrees_twin (h : Shows r q) (second : Char) (b : UInt8) :
    Agrees (if b = second.toUInt8 then .accept r else .reject r) (q.acceptAmong [second] b) := by
  have hamong : Octet.among [second] b = true ↔ b = second.toUInt8 := by
    rw [Octet.among, List.any_cons, List.any_nil, Bool.or_false, beq_iff_eq]
    exact eq_comm
  simp only [State.acceptAmong, hamong]
  exact agrees_ite (fun _ => .accept (h.kind_eq ▸ .complete)) fun _ => .reject h

/-- Between tokens the word register is empty, and the delimiter is written before it is read. -/
theorem agrees_lead (d b : UInt8) : Agrees (lead ⟨.idle, .error, d, []⟩ b) (State.lead b) := by
  refine agrees_ite (fun hb => hb ▸ .shift .wide) fun _ => ?_
  refine agrees_ite (fun _ => .shift .identifier) fun _ => ?_
  refine agrees_ite (fun _ => .shift .zero) fun _ => ?_
  refine agrees_ite (fun _ => .shift .decimal) fun _ => ?_
  refine agrees_ite (fun hb => hb ▸ .shift (@Shows.quoted .character _)) fun _ => ?_
  refine agrees_ite (fun hb => hb ▸ .shift (@Shows.quoted .string _)) fun _ => ?_
  refine agrees_ite (fun _ => .accept .complete) fun _ => ?_
  refine agrees_ite (fun _ => .accept .complete) fun _ => ?_
  refine agrees_ite (fun _ => .shift .hash) fun _ => ?_
  refine agrees_ite (fun _ => .shift .mayAssign) fun _ => ?_
  refine agrees_ite (fun _ => .shift .colon) fun _ => ?_
  refine agrees_ite (fun _ => .shift .percent) fun _ => ?_
  refine agrees_ite (fun _ => .shift .minus) fun _ => ?_
  refine agrees_ite (fun _ => .shift .mayDoubleOrAssign) fun _ => ?_
  refine agrees_ite (fun _ => .shift .divide) fun _ => ?_
  refine agrees_ite (fun _ => .shift .greater) fun _ => ?_
  refine agrees_ite (fun _ => .shift .less) fun _ => ?_
  refine agrees_ite (fun _ => .shift .dot) fun _ => ?_
  refine agrees_ite (fun _ => .shift .spaces) fun _ => ?_
  refine agrees_ite (fun _ => .shift .tabs) fun _ => ?_
  exact .shift .error

/-- Registers that show a state read an octet as the state does. -/
theorem Shows.step (h : Shows r q) (b : UInt8) :
    Step.Related Shows Shows (r.step b) (q.step b) := by
  cases h with
  | idle => exact agrees_lead _ b
  | identifier => exact agrees_ite (fun _ => .reject .identifier) fun _ => .shift .identifier
  | wide =>
    refine agrees_ite (fun hb => hb ▸ .shift (@Shows.quoted .character _)) fun _ => ?_
    refine agrees_ite (fun hb => hb ▸ .shift (@Shows.quoted .string _)) fun _ => ?_
    exact agrees_ite (fun _ => .reject .wide) fun _ => .shift .identifier
  | zero =>
    refine agrees_ite (fun _ => .shift .hexStart) fun _ => ?_
    refine agrees_ite (fun _ => .shift .octal) fun _ => ?_
    exact agrees_ite (fun _ => .shift .pendingFloat) fun _ => agrees_inInteger .zero b
  | octal =>
    refine agrees_ite (fun _ => .shift .octal) fun _ => ?_
    exact agrees_ite (fun _ => .shift .pendingFloat) fun _ => agrees_inInteger .octal b
  | pendingFloat =>
    refine agrees_ite (fun _ => .shift .pendingFloat) fun _ => ?_
    refine agrees_toFloat _ (fun next hnext => ?_) fun hnone => ?_
    · rw [hnext]
    · rw [hnone]
      exact agrees_number .pendingFloat b
  | decimal => exact agrees_ite (fun _ => .shift .decimal) fun _ => agrees_inInteger .decimal b
  | hexStart => exact agrees_ite (fun _ => .shift .hex) fun _ => agrees_fail _ b
  | hex =>
    refine agrees_ite (fun _ => .shift .hex) fun _ => ?_
    exact agrees_ite (fun _ => .shift .intSuffix) fun _ => agrees_number .hex b
  | intSuffix => exact agrees_ite (fun _ => .shift .intSuffix) fun _ => agrees_number .intSuffix b
  | fraction =>
    refine agrees_ite (fun _ => .shift .fraction) fun _ => ?_
    refine agrees_ite (fun _ => .shift .exponent) fun _ => ?_
    exact agrees_ite (fun _ => .accept .complete) fun _ => agrees_number .fraction b
  | exponent =>
    refine agrees_ite (fun _ => .shift .exponentDigits) fun _ => ?_
    exact agrees_ite (fun _ => .shift .exponentSign) fun _ => agrees_fail _ b
  | exponentSign => exact agrees_ite (fun _ => .shift .exponentDigits) fun _ => agrees_fail _ b
  | exponentDigits =>
    refine agrees_ite (fun _ => .shift .exponentDigits) fun _ => ?_
    exact agrees_ite (fun _ => .accept .complete) fun _ => agrees_number .exponentDigits b
  | @quoted quote w => exact agrees_inQuotes quote w b
  | @escape quote w => exact agrees_inEscape quote w b
  | @octalEscape quote w digits room h => exact agrees_octalEscape h b
  | hexEscapeStart => exact agrees_ite (fun _ => .shift .hexEscape) fun _ => agrees_fail _ b
  | @hexEscape quote w =>
    exact agrees_ite (fun _ => .shift .hexEscape) fun _ => agrees_inQuotes quote w b
  | universal h => exact agrees_universal h b
  | colon => exact agrees_acceptAmong .colon _ b
  | percent => exact agrees_acceptAmong .percent _ b
  | minus => exact agrees_ite (fun _ => .shift .arrow) fun _ => agrees_acceptAmong .minus _ b
  | arrow => exact agrees_acceptAmong .arrow _ b
  | mayAssign => exact agrees_twin .mayAssign '=' b
  | hash => exact agrees_twin .hash '#' b
  | mayDoubleOrAssign =>
    exact agrees_ite (fun _ => .accept .complete) fun _ => .reject .mayDoubleOrAssign
  | divide =>
    refine agrees_ite (fun _ => .shift .lineComment) fun _ => ?_
    exact agrees_ite (fun _ => .shift .blockComment) fun _ => agrees_acceptAmong .divide _ b
  | lineComment => exact .shift .lineComment
  | blockComment =>
    simp only [Registers.step, advance, State.step]
    split_ifs
    · exact .shift .blockCommentStar
    · exact .shift .blockComment
  | blockCommentStar =>
    refine agrees_ite (fun _ => .accept .complete) fun _ => ?_
    split_ifs
    · exact .shift .blockCommentStar
    · exact .shift .blockComment
  | greater =>
    exact agrees_ite (fun _ => .shift .shiftOperator) fun _ => agrees_acceptAmong .greater _ b
  | shiftOperator => exact agrees_acceptAmong .shiftOperator _ b
  | less => exact agrees_ite (fun _ => .shift .shiftOperator) fun _ => agrees_acceptAmong .less _ b
  | dot =>
    refine agrees_ite (fun _ => .shift .dots) fun _ => ?_
    exact agrees_ite (fun _ => .shift .fraction) fun _ => agrees_acceptAmong .dot _ b
  | dots => exact agrees_ite (fun _ => .accept .complete) fun _ => agrees_fail _ b
  | spaces => exact agrees_ite (fun _ => .shift .spaces) fun _ => .reject .spaces
  | tabs => exact agrees_ite (fun _ => .shift .tabs) fun _ => .reject .tabs
  | error => exact agrees_ite (fun _ => .reject .error) fun _ => .shift .error
  | complete => exact .reject .complete

end Step

/-! ### The end of a token, and of a line -/

section Simulation

variable {r : Registers} {q : State}

theorem Shows.finalKind_eq (h : Shows r q) (style : Style) :
    r.finalKind style = q.finalKind style := by
  cases h with
  | identifier => exact classify_eq style _
  | wide => exact classify_eq style ['L'.toUInt8]
  | _ => rfl

/-- The end of a token clears the word register, but not the delimiter. -/
theorem Shows.closesAlike (h : Shows r q) (style : Style) :
    @Machine.ClosesAlike (machine style) (Cpp.machine style) id Shows r q :=
  ⟨h.finalKind_eq style, .idle⟩

theorem Shows.newline (h : Shows r q) : Shows r.newline q.newline := by
  have hsame := h
  cases h with
  | blockCommentStar => exact .blockComment
  | _ => exact hsame

/-- The registers do what the machine does. -/
def simulation (style : Style) : (machine style).Simulation (Cpp.machine style) where
  name := id
  Shows := Shows
  name_injective := Function.injective_id
  name_error := rfl
  start := .idle
  isIdle_eq h := by cases h <;> rfl
  kind_eq h := h.kind_eq
  step h b := (h.step b).imp fun h => h.closesAlike style
  finish h := h.closesAlike style
  newline h := h.newline
  spansNewline_eq h := by cases h <;> rfl
  isEscaping_eq h := by cases h <;> rfl
  continuesLines_eq := rfl

end Simulation

end Registers

end MarkupFeed.Cpp
