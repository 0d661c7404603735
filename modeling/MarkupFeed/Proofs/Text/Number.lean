import MarkupFeed.Proofs.Text.Blank
import MarkupFeed.Text.Number

/-!
# Numbers are read back from the digits they are written in
-/

namespace MarkupFeed.Text

/-- Digits that stand for a number. -/
structure IsNumeral (digits : List Char) (n : Nat) : Prop where
  isDigit : ∀ c ∈ digits, c.isDigit = true
  value : digitsValue digits = n

theorem digitsValue_eq (digits : List Char) :
    digitsValue digits = Nat.ofDigitChars 10 digits 0 := by
  rw [digitsValue, Nat.ofDigitChars]
  simp only [Nat.mul_comm]

theorem isNumeral_toDigits (n : Nat) : IsNumeral (Nat.toDigits 10 n) n := by
  constructor
  · intro c hc
    exact Nat.isDigit_of_mem_toDigits (by decide) (by decide) hc
  · rw [digitsValue_eq, Nat.ofDigitChars_ten_toDigits]

/-- Zeros in front do not change the number. -/
theorem isNumeral_padded (width n : Nat) : IsNumeral (padded width n).toList n := by
  have hdigits := isNumeral_toDigits n
  rw [padded, String.toList_ofList]
  constructor
  · have hzeros : ∀ c ∈ List.replicate (width - (Nat.toDigits 10 n).length) '0',
        c.isDigit = true := by
      intro c hc
      rw [List.eq_of_mem_replicate hc]
      rfl
    exact List.forall_mem_append.mpr ⟨hzeros, hdigits.isDigit⟩
  · rw [digitsValue_eq, Nat.ofDigitChars_append, Nat.ofDigitChars_replicate_zero, Nat.mul_zero,
      ← digitsValue_eq, hdigits.value]

/-- Digits that stand for a number and fill a width. -/
structure IsField (width : Nat) (digits : List Char) (n : Nat) : Prop
    extends IsNumeral digits n where
  length_eq : digits.length = width

theorem IsField.ne_nil {width n : Nat} {digits : List Char} (h : IsField (width + 1) digits n) :
    digits ≠ [] :=
  List.ne_nil_of_length_eq_add_one h.length_eq

theorem isField_padded {width n : Nat} (h : (Nat.toDigits 10 n).length ≤ width) :
    IsField width (padded width n).toList n := by
  refine ⟨isNumeral_padded width n, ?_⟩
  rw [padded, String.toList_ofList, List.length_append, List.length_replicate]
  exact Nat.sub_add_cancel h

theorem digits?_toDigits (n : Nat) : digits? (Nat.toDigits 10 n) = some n := by
  have hdigits := isNumeral_toDigits n
  have hall : (Nat.toDigits 10 n).all Char.isDigit = true := List.all_eq_true.mpr hdigits.isDigit
  have hne : (Nat.toDigits 10 n).isEmpty = false := by simp
  rw [digits?, hall, hne, hdigits.value]
  rfl

theorem natural?_toString (n : Nat) : natural? (toString n) = some n := by
  rw [natural?, Nat.toString_eq_repr, Nat.toList_repr]
  split
  · -- no number is written with a sign
    next rest hplus =>
    have hdigit := (isNumeral_toDigits n).isDigit '+' (by rw [hplus]; exact List.mem_cons_self)
    exact absurd hdigit (by decide)
  · exact digits?_toDigits n

/-- A word is read back from its digits. -/
theorem word32?_toString (n : UInt32) : word32? (toString n.toNat) = some n := by
  rw [word32?, natural?_toString, Option.bind_some, if_pos n.toNat_lt, UInt32.ofNat_toNat]

/-- What holds of the ten digits. -/
theorem of_isDigit {p : Char → Prop} (h : ∀ n < 58, 48 ≤ n → p (Char.ofNat n)) {c : Char}
    (hc : c.isDigit = true) : p c := by
  have hbounds : 48 ≤ c.toNat ∧ c.toNat ≤ 57 := by
    simpa [Char.isDigit, UInt32.le_iff_toNat_le] using hc
  have hcode := h c.toNat (Nat.lt_succ_of_le hbounds.2) hbounds.1
  rwa [Char.ofNat_toNat] at hcode

/-- No digit is white space. -/
theorem isBlank_of_isDigit {c : Char} (h : c.isDigit = true) : isBlank c = false :=
  of_isDigit (p := fun c => isBlank c = false) (by decide) h

theorem IsNumeral.isLine {digits : List Char} {n : Nat} (h : IsNumeral digits n) :
    IsLine digits := by
  intro c hc
  have hdigit := h.isDigit c hc
  constructor
  · rintro rfl
    exact absurd hdigit (by decide)
  · rintro rfl
    exact absurd hdigit (by decide)

end MarkupFeed.Text
