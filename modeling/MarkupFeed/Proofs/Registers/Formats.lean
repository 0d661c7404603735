import MarkupFeed.Registers
import MarkupFeed.Proofs.Registers.Cpp

/-!
# What the registers of a format show

For each format, the machine on registers does what the machine of the format does
(`Format.simulation`). For free text and for Markdown the state says what is in the registers. The
machine of shell scripts has a state that leaves the word break open wherever it is not looked at.
The machine for reserved characters has accepted one of them in the state it has no register form
for, and closes its token at once.
-/

namespace MarkupFeed

/-! ### Free text -/

namespace Prose.Registers

/-- The registers show the state. -/
abbrev Shows (r : Registers) (q : State) : Prop := r = ⟨q, q.kind⟩

theorem related_inWord (q : State) (b : UInt8) :
    Step.Related Shows Shows (inWord ⟨q, .text⟩ b) (.shift (State.afterText b)) := by
  unfold inWord State.afterText
  split_ifs
  · exact .shift rfl
  · exact .shift rfl
  · exact .shift rfl

theorem Shows.step {r : Registers} {q : State} (h : Shows r q) (b : UInt8) :
    Step.Related Shows Shows (r.step b) (q.step b) := by
  subst h
  cases q with
  | idle =>
    simp only [Registers.step, State.step]
    split_ifs
    · exact .shift rfl
    · exact related_inWord .idle b
  | spaces => exact .ite (fun _ => .shift rfl) fun _ => .reject rfl
  | text => exact .ite (fun _ => .reject rfl) fun _ => related_inWord .text b
  | dot =>
    refine .ite (fun _ => .reject rfl) fun _ => ?_
    exact .ite (fun _ => .shift rfl) fun _ => .ite (fun _ => .shift rfl) fun _ => .shift rfl
  | dots =>
    refine .ite (fun _ => .reject rfl) fun _ => ?_
    exact .ite (fun _ => .shift rfl) fun _ => .shift rfl
  | slash =>
    refine .ite (fun _ => .reject rfl) fun _ => ?_
    exact .ite (fun _ => .shift rfl) fun _ => .ite (fun _ => .shift rfl) fun _ => .shift rfl
  | filename =>
    refine .ite (fun _ => .reject rfl) fun _ => ?_
    exact .ite (fun _ => .shift rfl) fun _ => .ite (fun _ => .shift rfl) fun _ => .shift rfl

/-- The end of a token clears all registers. -/
theorem Shows.closesAlike {r : Registers} {q : State} (h : Shows r q) :
    @Machine.ClosesAlike machine Prose.machine id Shows r q :=
  ⟨congrArg kind h, rfl⟩

def simulation : machine.Simulation Prose.machine where
  name := id
  Shows := Shows
  name_injective := Function.injective_id
  name_error := rfl
  start := rfl
  isIdle_eq h := by rw [h]; rfl
  kind_eq h := congrArg kind h
  step h b := (h.step b).imp Shows.closesAlike
  finish h := h.closesAlike
  newline h := h
  spansNewline_eq _ := rfl
  isEscaping_eq _ := rfl
  continuesLines_eq := rfl

end Prose.Registers

/-! ### Markdown -/

namespace Markdown.Registers

/-- The registers in a state. -/
def ofState : State → Registers
  | .idle => ⟨.idle, .error⟩
  | .dash => ⟨.dash, .para⟩
  | .dashes => ⟨.dashes, .header⟩
  | .equals => ⟨.equals, .header⟩
  | .bullet => ⟨.bullet, .para⟩
  | .ordinal => ⟨.ordinal, .para⟩
  | .ordinalMark => ⟨.ordinalMark, .para⟩
  | .line kind => ⟨.line, kind⟩

theorem kind_ofState (q : State) : (ofState q).kind = q.kind := by
  cases q <;> rfl

theorem next_ofState (q : State) (b : UInt8) : (ofState q).next b = ofState (q.next b) := by
  cases q with
  | line kind => rfl
  | _ =>
    simp only [ofState, next, State.next]
    split_ifs <;> rfl

theorem closesAlike_ofState (q : State) :
    @Machine.ClosesAlike machine Markdown.machine id (fun r q => r = ofState q) (ofState q) q :=
  ⟨kind_ofState q, rfl⟩

def simulation : machine.Simulation Markdown.machine where
  name := id
  Shows r q := r = ofState q
  name_injective := Function.injective_id
  name_error := rfl
  start := rfl
  isIdle_eq {_ q} h := by subst h; cases q <;> rfl
  kind_eq {_ q} h := by subst h; exact kind_ofState q
  step {_ q} h b := by subst h; exact .shift (next_ofState q b)
  finish {_ q} h := by subst h; exact closesAlike_ofState q
  newline h := h
  spansNewline_eq _ := rfl
  isEscaping_eq _ := rfl
  continuesLines_eq := rfl

end Markdown.Registers

/-! ### Shell scripts -/

namespace Shell.Registers

/-- The registers show the state. -/
inductive Shows : Registers → State → Prop where
  | idle {wordBreak} : Shows ⟨.idle, .error, wordBreak⟩ .idle
  | code {wordBreak} : Shows ⟨.code, .code, wordBreak⟩ (.code wordBreak)
  | codeEscape {wordBreak} : Shows ⟨.codeEscape, .code, wordBreak⟩ .codeEscape
  | singleQuoted : Shows ⟨.singleQuoted, .code, false⟩ .singleQuoted
  | doubleQuoted : Shows ⟨.doubleQuoted, .code, false⟩ .doubleQuoted
  | doubleQuotedEscape : Shows ⟨.doubleQuotedEscape, .code, false⟩ .doubleQuotedEscape
  | comment {wordBreak} : Shows ⟨.comment, .comment, wordBreak⟩ .comment

/-- No octet that leads out of plain code ends a word. -/
theorem related_inCode {phase : Phase} {wordBreak : Bool} {b : UInt8}
    (h : ¬(b = '#'.toUInt8 ∧ wordBreak = true)) :
    Step.Related Shows Shows (inCode ⟨phase, .code, wordBreak⟩ b) (.shift (State.afterCode b)) := by
  rw [inCode, if_neg h]
  refine .shift ?_
  unfold State.afterCode
  split_ifs with hescape hsingle hdouble
  · exact .codeEscape
  · exact hsingle ▸ .singleQuoted
  · exact hdouble ▸ .doubleQuoted
  · exact .code

theorem Shows.step {r : Registers} {q : State} (h : Shows r q) (b : UInt8) :
    Step.Related Shows Shows (r.step b) (q.step b) := by
  cases h with
  | idle =>
    simp only [Registers.step, State.step]
    split_ifs with hhash
    · exact .shift .comment
    · exact related_inCode fun h => hhash h.1
  | @code wordBreak =>
    simp only [Registers.step, State.step]
    by_cases hhash : b = '#'.toUInt8 ∧ wordBreak = true
    · obtain ⟨rfl, rfl⟩ := hhash
      exact .reject .code
    · rw [if_neg (by simpa [and_comm] using hhash)]
      exact related_inCode hhash
  | codeEscape => exact .shift .code
  | singleQuoted =>
    simp only [Registers.step, State.step]
    split_ifs
    · exact .shift .code
    · exact .shift .singleQuoted
  | doubleQuoted =>
    simp only [Registers.step, State.step]
    split_ifs
    · exact .shift .code
    · exact .shift .doubleQuotedEscape
    · exact .shift .doubleQuoted
  | doubleQuotedEscape => exact .shift .doubleQuoted
  | comment => exact .shift .comment

theorem Shows.kind_eq {r : Registers} {q : State} (h : Shows r q) : r.kind = q.kind := by
  cases h <;> rfl

theorem Shows.closesAlike {r : Registers} {q : State} (h : Shows r q) :
    @Machine.ClosesAlike machine Shell.machine id Shows r q :=
  ⟨h.kind_eq, .idle⟩

def simulation : machine.Simulation Shell.machine where
  name := id
  Shows := Shows
  name_injective := Function.injective_id
  name_error := rfl
  start := .idle
  isIdle_eq h := by cases h <;> rfl
  kind_eq h := h.kind_eq
  step h b := (h.step b).imp Shows.closesAlike
  finish h := h.closesAlike
  newline h := h
  spansNewline_eq h := by cases h <;> rfl
  isEscaping_eq _ := rfl
  continuesLines_eq := rfl

end Shell.Registers

/-! ### Reserved characters -/

namespace Escapes.Registers

/-- The registers show the state. -/
inductive Shows : Registers → State → Prop where
  | idle : Shows ⟨false, none⟩ .idle
  | data : Shows ⟨true, none⟩ .data

theorem Shows.closesAlike {r : Registers} {q : State} (h : Shows r q) :
    @Machine.ClosesAlike machine Escapes.machine id Shows r q := by
  cases h with
  | idle => exact ⟨rfl, .idle⟩
  | data => exact ⟨rfl, .idle⟩

/-- A reserved character is closed as soon as it is accepted. -/
theorem closesAlike_reserved (kind : Kind) :
    @Machine.ClosesAlike machine Escapes.machine id Shows ⟨false, some kind⟩ (.reserved kind) :=
  ⟨rfl, .idle⟩

theorem Shows.step {r : Registers} {q : State} (h : Shows r q) (b : UInt8) :
    Step.Related Shows (@Machine.ClosesAlike machine Escapes.machine id Shows) (r.step b)
      (q.step b) := by
  cases h with
  | idle =>
    simp only [Registers.step, State.step]
    cases Kind.reserved? b with
    | some kind => exact .accept (closesAlike_reserved kind)
    | none => exact .shift .data
  | data =>
    simp only [Registers.step, State.step]
    cases Kind.reserved? b with
    | some kind => exact .reject Shows.data.closesAlike
    | none => exact .shift .data

def simulation : machine.Simulation Escapes.machine where
  name := id
  Shows := Shows
  name_injective := Function.injective_id
  name_error := rfl
  start := .idle
  isIdle_eq h := by cases h <;> rfl
  kind_eq h := by cases h <;> rfl
  step h b := h.step b
  finish h := h.closesAlike
  newline h := h
  spansNewline_eq _ := rfl
  isEscaping_eq _ := rfl
  continuesLines_eq := rfl

end Escapes.Registers

/-! ### By format -/

/-- The machine of a format on registers does what the machine of the format does. -/
def Format.simulation (style : Cpp.Style) :
    (format : Format) → Machine.Simulation (format.registers style) (format.machine style)
  | cpp => Cpp.Registers.simulation style
  | prose => Prose.Registers.simulation
  | markdown => Markdown.Registers.simulation
  | shell => Shell.Registers.simulation
  | escapes => Escapes.Registers.simulation
  | xml => .refl _
  | mail => .refl _
  | diagnostics => .refl _

end MarkupFeed
