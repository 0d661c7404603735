import MarkupFeed.Proofs.Format.Numerals
import MarkupFeed.Proofs.Format.Spelling

/-!
# Where numbers of C and C++ end

Where a number of C and C++ ends in an input.

What begins as a number does stays in the states of a number, or of one that has gone wrong
(`State.inNumber`). There a token is left in front of a separator only; the one octet that completes
a token is the suffix of a floating-point number, and behind it nothing is looked at. So a number
ends in front of a separator, at the end of a line or of the input, or with such a suffix, and
anything else that is glued to it makes the whole an error: `Cpp.numbers_end`.
-/

namespace MarkupFeed.Cpp

/-- Whether a word in front of the octets is separated from them: they begin with a separator, a
line end, or are none. -/
def IsSeparated (rest : Bytes) : Prop := ∀ b ∈ rest.head?, isSeparator b = true

instance (rest : Bytes) : Decidable (IsSeparated rest) :=
  inferInstanceAs (Decidable (∀ b ∈ rest.head?, isSeparator b = true))

theorem isSeparated_of_atLineEnd {rest : Bytes} (h : rest = [] ∨ Reading.atLineEnd rest = true) :
    IsSeparated rest := by
  rcases h with rfl | h
  · exact fun b hb => nomatch hb
  · rw [Reading.atLineEnd_iff] at h
    intro b hb
    rcases h with h | h
    · obtain rfl : b = Octet.lineFeed := Option.some.inj (hb.symm.trans h)
      decide
    · obtain rfl : b = Octet.carriageReturn := Option.some.inj (hb.symm.trans h)
      decide

/-- Whether a word begins as a number does: with a digit, or with a point and a digit. -/
def beginsNumber : Bytes → Bool
  | [] => false
  | b :: rest => Octet.isDigit b || (b == '.'.toUInt8 && rest.head?.any Octet.isDigit)

/-- The numbers of the grammar begin so. -/
theorem beginsNumber_of_mem_numerals {kind : Kind} (hkind : kind ∈ numberKinds) {word : Bytes}
    (h : word ∈ numerals kind) : beginsNumber word = true := by
  have hlang : ∀ s, kind ∉ s.prospects → numeralsFrom kind s = 0 := numeralsFrom_of_not_mem hkind
  cases word with
  | nil =>
    have hidle := (nil_mem_numeralsFrom_iff hkind Format.defaultStyle (s := .idle) rfl).mp h
    exact absurd (hidle ▸ hkind) (by decide)
  | cons b rest =>
    have hb := (cons_mem_numeralsFrom_iff hkind (s := .idle) rfl b rest).mp h
    rw [State.completes_step hlang b rest hkind rfl] at hb
    rcases hb with ⟨rfl, -⟩ | ⟨hdigit, -⟩ | ⟨rfl, hrest⟩
    · rfl
    · simp [beginsNumber, (isNonzeroDigit_iff.mp hdigit).1]
    · cases rest with
      | nil =>
        have hdot := (nil_mem_numeralsFrom_iff hkind Format.defaultStyle (s := .dot) rfl).mp hrest
        exact absurd (hdot ▸ hkind) (by decide)
      | cons d rest =>
        have hd := (cons_mem_numeralsFrom_iff hkind (s := .dot) rfl d rest).mp hrest
        rw [State.completes_step hlang d rest hkind rfl] at hd
        simp [beginsNumber, hd.1]

namespace State

/-- The states of a number in progress, and of one that has gone wrong. -/
def inNumber : State → Bool
  | zero | decimal | octal | pendingFloat | hexStart | hex | fraction | exponent | exponentSign
  | exponentDigits | error => true
  | intSuffix kind => decide (kind ∈ numberKinds)
  | _ => false

variable {s next : State} {b : UInt8}

theorem shifts_inNumber (hs : s.inNumber = true) (b : UInt8) :
    (s.step b).Shifts fun next => next.inNumber = true := by
  cases s <;> grind [step, fail, endNumber, inInteger, toFloat?, inNumber, Step.Shifts, kind,
    numberKinds]

/-- Only the suffix of a floating-point number completes a token. -/
theorem accept_inNumber (hs : s.inNumber = true) (h : s.step b = .accept next) :
    next = .complete .floatingLiteral ∧ isFloatSuffix b = true := by
  cases s <;> grind [step, fail, endNumber, inInteger, toFloat?, inNumber]

/-- Only a separator is left to the next token. -/
theorem reject_inNumber (hs : s.inNumber = true) (h : s.step b = .reject next) :
    isSeparator b = true := by
  cases s <;> grind [step, fail, endNumber, inInteger, toFloat?, inNumber]

theorem finalKind_inNumber (style : Style) (hs : s.inNumber = true) :
    s.finalKind style ∈ numberKinds ∨ s.finalKind style = .error := by
  cases s <;> simp_all [inNumber, finalKind, kind, numberKinds]

end State

/-- Whether a word ends with the suffix of a floating-point number. -/
def IsSuffixed (word : Bytes) : Prop :=
  ∃ digits suffix, word = digits ++ [suffix] ∧ isFloatSuffix suffix = true

/-- How a token ends that begins as a number: as a number or as an error, and in front of a
separator, or with the suffix of a floating-point number. -/
def EndsNumber (word : Bytes) (kind : Kind) (rest : Bytes) : Prop :=
  (kind ∈ numberKinds ∨ kind = .error)
    ∧ (IsSeparated rest ∨ kind = .floatingLiteral ∧ IsSuffixed word)

theorem EndsNumber.cons {word rest : Bytes} {kind : Kind} (h : EndsNumber word kind rest)
    (b : UInt8) : EndsNumber (b :: word) kind rest := by
  refine ⟨h.1, h.2.imp_right fun ⟨hkind, digits, suffix, hword, hsuffix⟩ => ⟨hkind, ?_⟩⟩
  exact ⟨b :: digits, suffix, by rw [hword, List.cons_append], hsuffix⟩

section Ends

variable {style : Style} {first : (machine style).State} {kind : (machine style).Kind}
  {word rest : Bytes}

theorem inNumber_of_stateAfter? {s : (machine style).State} (hfirst : State.inNumber first = true)
    (hword : (machine style).stateAfter? first word = some s) : State.inNumber s = true :=
  Machine.stateAfter?_kept (p := fun s : State => s.inNumber = true)
    (fun _ b hs => State.shifts_inNumber hs b) hword hfirst

/-- A token that goes on in a number ends so. -/
theorem endsNumber_of_inNumber (hfirst : State.inNumber first = true)
    (h : (machine style).Ends first word kind rest) : EndsNumber word kind rest := by
  cases h with
  | accept hword hstep =>
    have hs := inNumber_of_stateAfter? hfirst hword
    obtain ⟨rfl, hsuffix⟩ := State.accept_inNumber hs hstep
    have hnumber : Kind.floatingLiteral ∈ numberKinds := by decide
    exact ⟨.inl hnumber, .inr ⟨rfl, _, _, rfl, hsuffix⟩⟩
  | reject hword hbusy hstep =>
    have hs := inNumber_of_stateAfter? hfirst hword
    have hkind := State.finalKind_inNumber style hs
    rw [← State.finalKind_of_reject style hstep] at hkind
    exact ⟨hkind, .inl fun c hc => Option.some.inj hc ▸ State.reject_inNumber hs hstep⟩
  | lineEnd hword hbusy hrest =>
    have hs := inNumber_of_stateAfter? hfirst hword
    exact ⟨State.finalKind_inNumber style hs, .inl (isSeparated_of_atLineEnd hrest)⟩
  | refuse hidle hstep =>
    rw [eq_idle_of_isIdle hidle] at hfirst
    exact absurd hfirst (by decide)

/-- So does one that begins as a number. -/
theorem endsNumber_of_beginsNumber (hword : beginsNumber word = true)
    (h : (machine style).Ends State.idle word kind rest) : EndsNumber word kind rest := by
  cases word with
  | nil => exact absurd hword (by decide)
  | cons b word =>
    by_cases hdigit : Octet.isDigit b = true
    · have hlead : (machine style).step State.idle b = .shift _ := lead_of_isDigit hdigit
      refine (endsNumber_of_inNumber ?_ (h.of_shift hlead)).cons b
      split <;> rfl
    · -- behind the point, a digit makes it a number
      obtain ⟨rfl, d, word, rfl, hd⟩ : b = '.'.toUInt8 ∧ ∃ d tail, word = d :: tail
          ∧ Octet.isDigit d = true := by
        cases word <;> simp_all [beginsNumber]
      have hdot : (machine style).step State.idle '.'.toUInt8 = .shift State.dot := rfl
      have hstep : (machine style).step State.dot d = .shift State.fraction := by
        show State.step .dot d = .shift .fraction
        rw [State.step, if_neg (isDigit_excludes hd).2.2.2.2.2, if_pos hd]
      have hends := (h.of_shift hdot).of_shift hstep
      exact ((endsNumber_of_inNumber rfl hends).cons d).cons '.'.toUInt8

end Ends

/-! ### Numbers of an input -/

/-- Whatever buffers an input comes in, a token of it that is a number literal is one of the
grammar, line continuations apart. It ends in front of a separator or a line end, or at the end of
the input, unless it is a floating-point number with a suffix, which ends it at once. A token that
begins as a number and is none is an error, which ends in front of a separator in any case. -/
theorem numbers_end (style : Style) {buffers : List Bytes} {before after : List (Event Kind)}
    {kind : Kind} {text : Bytes}
    (h : Event.merged ((machine style).events buffers)
      = before ++ .token kind text false :: after) :
    buffers.flatten = Event.source before ++ (text ++ Event.source after)
      ∧ (kind ∈ numberKinds →
        text.unjoined ∈ numerals kind
          ∧ (IsSeparated (Event.source after)
            ∨ kind = .floatingLiteral ∧ IsSuffixed text.unjoined))
      ∧ (beginsNumber text.unjoined = true → kind ∉ numberKinds → kind ≠ .comment →
        kind = .error ∧ (∀ number ∈ numberKinds, text.unjoined ∉ numerals number)
          ∧ IsSeparated (Event.source after)) := by
  have hm : (machine style).IsSteady := Format.isSteady_machine style .cpp
  obtain ⟨first, hfirst, hends⟩ := Machine.exists_ends hm h
  -- the tokens but comments are words of the machine
  have hidle (hcomment : kind ≠ .comment) := ends_idle hfirst hends hcomment
  have hword (hcomment : kind ≠ .comment) := kindOf?_of_ends (hidle hcomment)
  refine ⟨Machine.flatten_eq_of_token hm h, ?_, ?_⟩
  · intro hkind
    have hcomment : kind ≠ .comment := by
      rintro rfl
      exact absurd hkind (by decide)
    have hmem := ((recognizes_numeralsFrom hkind style).kindOf?_eq_some_iff .idle _).mp
      (hword hcomment)
    have hbegins := beginsNumber_of_mem_numerals hkind hmem
    exact ⟨hmem, (endsNumber_of_beginsNumber hbegins (hidle hcomment)).2⟩
  · intro hbegins hkind hcomment
    obtain ⟨herror, hrest⟩ := endsNumber_of_beginsNumber hbegins (hidle hcomment)
    have herror : kind = .error := herror.resolve_left hkind
    refine ⟨herror, ?_, hrest.resolve_right fun hfloat => ?_⟩
    · intro number hnumber hmem
      have hother := ((recognizes_numeralsFrom hnumber style).kindOf?_eq_some_iff .idle _).mpr hmem
      have hsame : number = kind := Option.some.inj (hother.symm.trans (hword hcomment))
      exact hkind (hsame ▸ hnumber)
    · exact absurd (herror.symm.trans hfloat.1) (by decide)

/-- A number that letters are glued to, cut in two buffers. -/
theorem numbers_end_glued :
    let buffers := [Bytes.ascii "12", Bytes.ascii "ab;"]
    Event.merged ((machine Format.defaultStyle).events buffers)
        = [] ++ .token .error (Bytes.ascii "12ab") false
          :: [.token .punctuator (Bytes.ascii ";") false]
      ∧ (∀ number ∈ numberKinds, Bytes.ascii "12ab" ∉ numerals number)
      ∧ IsSeparated (Bytes.ascii ";") := by
  intro buffers
  have h : Event.merged ((machine Format.defaultStyle).events buffers)
      = [] ++ .token .error (Bytes.ascii "12ab") false
        :: [.token .punctuator (Bytes.ascii ";") false] := by decide
  have herror := (numbers_end Format.defaultStyle h).2.2 (by decide) (by decide) (by decide)
  exact ⟨h, herror.2⟩

/-- The suffix of a floating-point number ends it in front of another number, where that of an
integer makes the whole an error. -/
theorem number_behind_suffix :
    (machine Format.defaultStyle).tokens (Bytes.ascii "1.5f2")
        = [.token .floatingLiteral (Bytes.ascii "1.5f") false,
          .token .decimalLiteral (Bytes.ascii "2") false]
      ∧ ¬IsSeparated (Bytes.ascii "2")
      ∧ (machine Format.defaultStyle).tokens (Bytes.ascii "15L2")
        = [.token .error (Bytes.ascii "15L2") false] := by
  refine ⟨?_, ?_, ?_⟩ <;> decide

end MarkupFeed.Cpp
