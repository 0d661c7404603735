import MarkupFeed.Proofs.Format.Literals
import MarkupFeed.Proofs.Tokenizer.Spelling

/-!
# The tokens of C and C++ as words

All tokens begin in the one state between tokens, except for the later lines of a block comment
(`Cpp.eq_idle_or_eq_blockComment`). An octet that is left to the next token does not change the kind
of the token it ends (`State.finalKind_of_reject`), and only tokens of some kinds have a last octet
that completes them (`State.finalKind_of_accept`). Therefore every other token, line continuations
apart, is a word that the machine takes to its kind: `Cpp.ends_idle`, `Cpp.kindOf?_of_ends`.
-/

namespace MarkupFeed.Cpp

variable {style : Style}

/-- The kinds of the tokens that their last octet completes. -/
def completedKinds : List Kind :=
  [.characterLiteral, .stringLiteral, .floatingLiteral, .operator, .punctuator, .preprocessing,
    .comment]

namespace State

variable {s next : State} {b : UInt8}

/-- The octet that a token ends in front of leaves its kind as it is. -/
theorem finalKind_of_reject (style : Style) (h : s.step b = .reject next) :
    next.finalKind style = s.finalKind style := by
  cases s with
  | idle =>
    have htakes : (lead b).isReject = false := takesAll_machine style b
    rw [show lead b = .reject next from h] at htakes
    exact absurd htakes (by simp)
  | universal quote missing => cases missing <;> grind [step, fail, finalKind, kind]
  | _ =>
    grind [step, fail, endNumber, inInteger, toFloat?, acceptAmong, inQuotes, inEscape, finalKind,
      kind]

theorem accept_lead (h : lead b = .accept next) :
    next = .complete .punctuator ∨ next = .complete .operator := by
  simp only [lead, ite_eq_iff, reduceCtorEq, and_false, false_or, or_false, Step.accept.injEq] at h
  grind

/-- An octet completes tokens of some kinds only; the others go on to where the next token
begins. -/
theorem finalKind_of_accept (style : Style) (h : s.step b = .accept next) :
    next.finalKind style ∈ completedKinds := by
  cases s with
  | idle => rcases accept_lead h with rfl | rfl <;> simp [finalKind, kind, completedKinds]
  | quoted quote | octalEscape quote room | hexEscape quote =>
    cases quote <;> grind [step, inQuotes, Quote.kind, finalKind, kind, completedKinds]
  | universal quote missing => cases missing <;> grind [step, fail]
  | _ =>
    grind [step, fail, endNumber, inInteger, toFloat?, acceptAmong, inEscape, finalKind, kind,
      completedKinds]

/-- Whether the token is complete. -/
def isComplete : State → Bool
  | complete _ => true
  | _ => false

theorem shifts_isComplete (s : State) (b : UInt8) :
    (s.step b).Shifts fun next => next.isComplete = false := by
  cases s with
  | idle => simp [step, lead, isComplete]
  | universal quote missing => cases missing <;> grind [step, fail, isComplete, Step.Shifts]
  | _ =>
    grind [step, fail, endNumber, inInteger, toFloat?, acceptAmong, inQuotes, inEscape, isComplete,
      Step.Shifts]

/-! ### Block comments -/

theorem shifts_blockComment (hs : s.isBlockComment = true) (b : UInt8) :
    (s.step b).Shifts fun next => next.isBlockComment = true := by
  cases s <;> grind [step, isBlockComment, Step.Shifts]

theorem accept_blockComment (hs : s.isBlockComment = true) (h : s.step b = .accept next) :
    next = .complete .comment := by
  cases s <;> grind [step, isBlockComment]

theorem finalKind_blockComment (style : Style) (hs : s.isBlockComment = true) :
    s.finalKind style = .comment := by
  cases s <;> simp_all [isBlockComment, finalKind, kind]

end State

/-! ### Where tokens begin -/

theorem eq_idle_of_isIdle {s : State} (h : (machine style).isIdle s = true) : s = .idle :=
  beq_iff_eq.mp h

section Ends

variable {first : (machine style).State} {kind : (machine style).Kind} {word rest : Bytes}

theorem eq_idle_or_eq_blockComment (h : (machine style).Begins first) :
    first = State.idle ∨ first = State.blockComment := by
  cases h with
  | start => exact .inl rfl
  | idle hidle => exact .inl (eq_idle_of_isIdle hidle)
  | @newline s hs =>
    rcases hs with hidle | hspans
    · obtain rfl := eq_idle_of_isIdle hidle
      exact .inl rfl
    · have hcomment : State.isBlockComment s = true := hspans
      right
      cases s <;> first | rfl | exact absurd hcomment (by simp [State.isBlockComment])

theorem isBlockComment_of_stateAfter? {s : (machine style).State}
    (hword : (machine style).stateAfter? State.blockComment word = some s) :
    State.isBlockComment s = true :=
  Machine.stateAfter?_kept (p := fun s : State => s.isBlockComment = true)
    (fun _ b hs => State.shifts_blockComment hs b) hword rfl

/-- What goes on on a new line is a comment. -/
theorem eq_comment_of_ends (h : (machine style).Ends State.blockComment word kind rest) :
    kind = Kind.comment := by
  cases h with
  | accept hword hstep =>
    rw [State.accept_blockComment (isBlockComment_of_stateAfter? hword) hstep]
    rfl
  | reject hword hbusy hstep =>
    have hkind := State.finalKind_of_reject style hstep
    exact hkind.trans (State.finalKind_blockComment style (isBlockComment_of_stateAfter? hword))
  | lineEnd hword hbusy hrest =>
    exact State.finalKind_blockComment style (isBlockComment_of_stateAfter? hword)
  | refuse hidle hstep => exact nomatch eq_idle_of_isIdle hidle

/-- All other tokens begin between tokens. -/
theorem ends_idle (hfirst : (machine style).Begins first)
    (h : (machine style).Ends first word kind rest) (hkind : kind ≠ Kind.comment) :
    (machine style).Ends State.idle word kind rest := by
  rcases eq_idle_or_eq_blockComment hfirst with rfl | rfl
  · exact h
  · exact absurd (eq_comment_of_ends h) hkind

/-- A token that begins between tokens is a word that the machine takes to its kind. -/
theorem kindOf?_of_ends (h : (machine style).Ends State.idle word kind rest) :
    (machine style).kindOf? State.idle word = some kind := by
  cases h with
  | accept hword hstep =>
    rw [Machine.kindOf?_append hword, Machine.kindOf?, hstep]
    rfl
  | reject hword hbusy hstep =>
    rw [Machine.kindOf?_of_stateAfter? hword]
    exact congrArg some (State.finalKind_of_reject style hstep).symm
  | lineEnd hword hbusy hrest => exact Machine.kindOf?_of_stateAfter? hword
  | @refuse rest b next hidle hstep =>
    have htakes : ((machine style).step State.idle b).isReject = false := takesAll_machine style b
    rw [hstep] at htakes
    exact absurd htakes (by simp)

end Ends

end MarkupFeed.Cpp
