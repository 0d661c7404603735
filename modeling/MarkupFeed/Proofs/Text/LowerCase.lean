import Mathlib.Data.List.Chain
import MarkupFeed.Proofs.Text.Collapse
import MarkupFeed.Text.DecimalDigits
import MarkupFeed.Text.LowerCase
import MarkupFeed.Text.Runs.Lemmas

/-!
# Laws of small letters

Whatever the table changes is neither white space nor a digit, before and after, and is not changed
again (`lowerChar_eq_or`); this is checked run by run. Hence which case the ASCII letters of a text
had before does not matter: `lowerAfter_map_toLower`.
-/

namespace MarkupFeed

/-! ### Ranges in a set of characters -/

/-- Whether membership in the set is the same, `value`, from one code point to another, both
included. -/
def Runs.isAll (value : Bool) (first last : Nat) : Runs → Bool
  | [] => !value
  | change :: later =>
    if last.blt change then !value else change.ble first && isAll (!value) first last later

theorem Runs.contains_of_isAll {value : Bool} {first last : Nat} {runs : Runs}
    (h : runs.isAll value first last = true) {c : Char} (hfirst : first ≤ c.toNat)
    (hlast : c.toNat ≤ last) : runs.contains c = value := by
  induction runs generalizing value with
  | nil =>
    obtain rfl : value = false := by simpa [isAll] using h
    rfl
  | cons change later ih =>
    rw [isAll] at h
    rw [contains]
    split at h
    · next hbefore =>
      have hnot : ¬change ≤ c.toNat :=
        Nat.not_le.mpr (Nat.lt_of_le_of_lt hlast (Nat.blt_eq.mp hbefore))
      obtain rfl : value = false := by simpa using h
      rw [decide_eq_false hnot, Bool.false_and]
    · rw [Bool.and_eq_true, Nat.ble_eq] at h
      rw [ih h.2, decide_eq_true (Nat.le_trans h.1 hfirst), Bool.not_not, Bool.true_and]

namespace Text

theorem isBlank_of_isDecimalDigit {c : Char} (h : isDecimalDigit c = true) : isBlank c = false := by
  have hblank : Runs.Ascending blankRuns := by decide
  have hdigits : Runs.Ascending decimalDigitRuns :=
    List.isChain_iff_pairwise.mp (by decide +kernel)
  have hnone : Runs.inter blankRuns decimalDigitRuns = [] := by decide +kernel
  have hboth := Runs.contains_inter hblank hdigits c
  rw [hnone, show decimalDigitRuns.contains c = true from h, Bool.and_true] at hboth
  exact hboth.symm

/-! ### The table -/

/-- Characters whose small forms are listed together. -/
abbrev LowerRun := Nat × Nat × Nat × Int

namespace LowerRun

/-- Whether the small form of a code point is listed in the run. -/
def has : LowerRun → Nat → Bool
  | (first, last, stride, _), n => first ≤ n && n ≤ last && (n - first) % stride == 0

/-- Whether no code point of the run is in any of the others: if it is not in their range, it is one
of those that every second run leaves out. -/
def isApart (first last stride : Nat) : List LowerRun → Bool
  | [] => true
  | run :: rest =>
    (last.blt run.1 || run.2.1.blt first
      || (run.2.2.1.beq 2 && (stride.beq 2 || first.beq last) && ((first + run.1) % 2).beq 1))
    && isApart first last stride rest

/-- Whether the small forms of a run are what small forms have to be. -/
def isFit : LowerRun → Bool
  | (first, last, stride, shift) =>
    let first' := (first + shift).toNat
    let last' := (last + shift).toNat
    Int.toNat (-shift) ≤ first
      && (last' < 0xD800 || (0xDFFF < first' && last' < 0x110000))
      && (first == 0x41 && last == 0x5A && shift == 32 || 128 ≤ first'
        || first' == 0x6B && last' == 0x6B)
      && blankRuns.isAll false first last
      && blankRuns.isAll false first' last'
      && decimalDigitRuns.isAll false first' last'
      -- the dotted capital is in no run, but it has small forms of its own
      && isApart first' last' stride ((0x130, 0x130, 1, 0) :: lowerRuns)

end LowerRun

theorem isFit_of_mem_lowerRuns : ∀ run ∈ lowerRuns, LowerRun.isFit run = true := by
  decide +kernel

theorem LowerRun.has_eq_true {first last stride n : Nat} {shift : Int} :
    has (first, last, stride, shift) n = true
      ↔ first ≤ n ∧ n ≤ last ∧ (n - first) % stride = 0 := by
  simp [has, and_assoc]

theorem lowerChar_eq (c : Char) :
    lowerChar c = (lowerRuns.find? (LowerRun.has · c.toNat)).elim c fun run =>
      Char.ofNat (c.toNat + run.2.2.2).toNat := by
  show (match lowerRuns.find? (LowerRun.has · c.toNat) with
    | some (_, _, _, shift) => Char.ofNat (c.toNat + shift).toNat
    | none => c) = _
  cases lowerRuns.find? (LowerRun.has · c.toNat) <;> rfl

/-- A small form is the code point moved by the shift of its run. -/
theorem LowerRun.of_lowerChar_ne {c : Char} (h : lowerChar c ≠ c) :
    ∃ first last stride shift, (first, last, stride, shift) ∈ lowerRuns
      ∧ LowerRun.has (first, last, stride, shift) c.toNat = true
      ∧ lowerChar c = Char.ofNat (c.toNat + shift).toNat := by
  rw [lowerChar_eq] at h ⊢
  cases hfound : lowerRuns.find? (LowerRun.has · c.toNat) with
  | none => exact absurd (congrArg (Option.elim · c _) hfound) h
  | some run =>
    obtain ⟨first, last, stride, shift⟩ := run
    exact ⟨first, last, stride, shift, List.mem_of_find?_eq_some hfound,
      List.find?_some (p := (LowerRun.has · c.toNat)) hfound, rfl⟩

/-- What no run has is its own small form. -/
theorem lowerChar_eq_self {c : Char} (h : ∀ run ∈ lowerRuns, LowerRun.has run c.toNat = false) :
    lowerChar c = c := by
  by_cases hsame : lowerChar c = c
  · exact hsame
  · obtain ⟨first, last, stride, shift, hmem, hhas, -⟩ := LowerRun.of_lowerChar_ne hsame
    exact absurd hhas (by simp [h _ hmem])

theorem LowerRun.not_has_of_isApart {first last stride n : Nat} {runs : List LowerRun}
    (h : isApart first last stride runs = true) (hfirst : first ≤ n) (hlast : n ≤ last)
    (hstride : (n - first) % stride = 0) : ∀ run ∈ runs, run.has n = false := by
  induction runs with
  | nil => exact List.forall_mem_nil _
  | cons run rest ih =>
    obtain ⟨first', last', stride', shift'⟩ := run
    rw [isApart, Bool.and_eq_true] at h
    refine List.forall_mem_cons.mpr ⟨?_, ih h.2⟩
    rw [Bool.eq_false_iff]
    intro hhas
    obtain ⟨hfirst', hlast', hstride'⟩ := has_eq_true.mp hhas
    have hcases := h.1
    simp only [Bool.or_eq_true, Bool.and_eq_true, Nat.blt_eq, Nat.beq_eq] at hcases
    rcases hcases with (hlt | hlt) | ⟨⟨htwo', htwo | hsame⟩, hodd⟩
    · omega
    · omega
    · subst htwo htwo'
      omega
    · subst htwo'
      omega

/-! ### ASCII letters -/

/-- What holds of the 26 capitals holds of every character between the first and the last. -/
theorem of_isUpper {P : Char → Prop} (h : ∀ n < 26, P (Char.ofNat (0x41 + n))) {c : Char}
    (hfirst : 0x41 ≤ c.toNat) (hlast : c.toNat ≤ 0x5A) : P c := by
  have hc := h (c.toNat - 0x41) (by omega)
  rwa [Nat.add_sub_cancel' hfirst, Char.ofNat_toNat] at hc

/-- A character is its ASCII small letter or one of the 26 capitals. -/
theorem of_toLower {P : Char → Char → Prop} (hsame : ∀ c, P c c)
    (h : ∀ n < 26, P (Char.ofNat (0x41 + n)) (Char.ofNat (0x61 + n))) (c : Char) :
    P c c.toLower := by
  by_cases hc : c.val ≥ 'A'.val ∧ c.val ≤ 'Z'.val
  · have hsmall : ∀ n < 26, (Char.ofNat (0x41 + n)).toLower = Char.ofNat (0x61 + n) := by decide
    exact of_isUpper (P := fun c => P c c.toLower) (fun n hn => hsmall n hn ▸ h n hn)
      (UInt32.le_iff_toNat_le.mp hc.1) (UInt32.le_iff_toNat_le.mp hc.2)
  · have hother : c.toLower = c := dif_neg hc
    rw [hother]
    exact hsame c

/-- A character that is no ASCII letter is the small letter of itself only. -/
theorem toLower_eq_iff {d : Char}
    (h : ∀ n < 26, (Char.ofNat (0x61 + n) = d ↔ Char.ofNat (0x41 + n) = d)) (c : Char) :
    c.toLower = d ↔ c = d :=
  of_toLower (P := fun c small => small = d ↔ c = d) (fun _ => Iff.rfl) h c

theorem toLower_toLower (c : Char) : c.toLower.toLower = c.toLower :=
  of_toLower (P := fun c small => small.toLower = c.toLower) (fun _ => rfl) (by decide) c

theorem isDecimalDigit_toLower (c : Char) : isDecimalDigit c.toLower = isDecimalDigit c :=
  of_toLower (P := fun c small => isDecimalDigit small = isDecimalDigit c) (fun _ => rfl)
    (by decide) c

theorem isBlank_toLower (c : Char) : isBlank c.toLower = isBlank c :=
  of_toLower (P := fun c small => isBlank small = isBlank c) (fun _ => rfl) (by decide) c

theorem lowerChar_toLower (c : Char) : lowerChar c.toLower = lowerChar c :=
  of_toLower (P := fun c small => lowerChar small = lowerChar c) (fun _ => rfl)
    (by decide +kernel) c

/-! ### Small forms -/

/-- What a small form is that is not the character itself. -/
structure IsSmallForm (c small : Char) : Prop where
  lowerChar_eq : lowerChar small = small
  ne_sigma : small ≠ 'Σ'
  ne_dotted : small ≠ 'İ'
  isBlank_before : isBlank c = false
  isBlank_eq : isBlank small = false
  isDecimalDigit_eq : isDecimalDigit small = false
  toLower_eq : small.toNat < 0x80 → small ≠ 'k' → c.toLower = small

theorem lowerChar_eq_or (c : Char) : lowerChar c = c ∨ IsSmallForm c (lowerChar c) := by
  by_cases hsame : lowerChar c = c
  · exact .inl hsame
  right
  obtain ⟨first, last, stride, shift, hmem, hhas, hsmall⟩ := LowerRun.of_lowerChar_ne hsame
  obtain ⟨hfirst, hlast, hstride⟩ := LowerRun.has_eq_true.mp hhas
  have hfit := isFit_of_mem_lowerRuns _ hmem
  simp only [LowerRun.isFit, Bool.and_eq_true, Bool.or_eq_true, decide_eq_true_eq,
    beq_iff_eq] at hfit
  obtain ⟨⟨⟨⟨⟨⟨hshift, hvalid⟩, hascii⟩, hblank⟩, hblank'⟩, hdigit⟩, hapart⟩ := hfit
  have hcode : (lowerChar c).toNat = (c.toNat + shift).toNat := by
    have hchar : (c.toNat + shift).toNat.isValidChar := by
      unfold Nat.isValidChar
      omega
    rw [hsmall, Char.ofNat, dif_pos hchar]
    rfl
  have hcode_first : (first + shift).toNat ≤ (lowerChar c).toNat := by omega
  have hcode_last : (lowerChar c).toNat ≤ (last + shift).toNat := by omega
  have hnot : ∀ run ∈ (0x130, 0x130, 1, 0) :: lowerRuns,
      LowerRun.has run (lowerChar c).toNat = false := by
    refine LowerRun.not_has_of_isApart hapart hcode_first hcode_last ?_
    have hsame : (lowerChar c).toNat - (first + shift).toNat = c.toNat - first := by omega
    rw [hsame, hstride]
  rw [List.forall_mem_cons] at hnot
  have hstays : lowerChar (lowerChar c) = lowerChar c := lowerChar_eq_self hnot.2
  exact {
    lowerChar_eq := hstays
    ne_sigma := fun h => absurd hstays (by rw [h]; decide +kernel)
    ne_dotted := fun h => absurd hnot.1 (by rw [h]; decide)
    isBlank_before := Runs.contains_of_isAll hblank hfirst hlast
    isBlank_eq := Runs.contains_of_isAll hblank' hcode_first hcode_last
    isDecimalDigit_eq := Runs.contains_of_isAll hdigit hcode_first hcode_last
    toLower_eq := by
      intro hlt hk
      rcases hascii with (⟨⟨rfl, rfl⟩, rfl⟩ | hge) | ⟨hfirst', hlast'⟩
      · exact of_isUpper (P := fun c => c.toLower = lowerChar c) (by decide +kernel) hfirst hlast
      · omega
      · refine absurd ?_ hk
        rw [← Char.ofNat_toNat (lowerChar c), show (lowerChar c).toNat = 0x6B by omega] }

theorem isBlank_lowerChar (c : Char) : isBlank (lowerChar c) = isBlank c := by
  rcases lowerChar_eq_or c with hsame | hsmall
  · rw [hsame]
  · rw [hsmall.isBlank_eq, hsmall.isBlank_before]

theorem lowerChar_of_isBlank {c : Char} (h : isBlank c = true) : lowerChar c = c := by
  rcases lowerChar_eq_or c with hsame | hsmall
  · exact hsame
  · exact absurd h (by simp [hsmall.isBlank_before])

/-- The small forms of a character between others. -/
def smallForms (before : List Char) (c : Char) (rest : List Char) : List Char :=
  if c = 'Σ' then [if startsCased before && !startsCased rest then 'ς' else 'σ']
  else if c = 'İ' then ['i', '\u0307']
  else [lowerChar c]

theorem lowerAfter_cons (before : List Char) (c : Char) (rest : List Char) :
    lowerAfter before (c :: rest) = smallForms before c rest ++ lowerAfter (c :: before) rest := rfl

theorem smallForms_cases (before : List Char) (c : Char) (rest : List Char) :
    (smallForms before c rest = [lowerChar c] ∧ c ≠ 'Σ' ∧ c ≠ 'İ')
      ∨ isBlank c = false ∧ (smallForms before c rest = ['σ'] ∨ smallForms before c rest = ['ς']
        ∨ smallForms before c rest = ['i', '\u0307']) := by
  unfold smallForms
  split
  · next hsigma =>
    refine .inr ⟨hsigma ▸ by decide, ?_⟩
    split
    · exact .inr (.inl rfl)
    · exact .inl rfl
  split
  · next hdotted => exact .inr ⟨hdotted ▸ by decide, .inr (.inr rfl)⟩
  · next hsigma hdotted => exact .inl ⟨rfl, hsigma, hdotted⟩

/-! ### Texts -/

/-- What stays as it is in small letters, whatever stands around it. -/
def IsSmall (c : Char) : Prop := lowerChar c = c ∧ c ≠ 'Σ' ∧ c ≠ 'İ'

instance (c : Char) : Decidable (IsSmall c) := inferInstanceAs (Decidable (_ ∧ _ ∧ _))

theorem isSmall_of_mem_smallForms {before rest : List Char} {c d : Char}
    (h : d ∈ smallForms before c rest) : IsSmall d := by
  rcases smallForms_cases before c rest with ⟨heq, hsigma, hdotted⟩ | ⟨-, heq | heq | heq⟩
  · rw [heq, List.mem_singleton] at h
    subst h
    rcases lowerChar_eq_or c with hsame | hsmall
    · rw [hsame]
      exact ⟨hsame, hsigma, hdotted⟩
    · exact ⟨hsmall.lowerChar_eq, hsmall.ne_sigma, hsmall.ne_dotted⟩
  · obtain rfl : d = 'σ' := by simpa [heq] using h
    decide +kernel
  · obtain rfl : d = 'ς' := by simpa [heq] using h
    decide +kernel
  · obtain rfl | rfl : d = 'i' ∨ d = '\u0307' := by simpa [heq] using h
    · decide +kernel
    · decide +kernel

theorem isSmall_of_mem_lowerAfter {before text : List Char} {d : Char}
    (h : d ∈ lowerAfter before text) : IsSmall d := by
  induction text generalizing before with
  | nil => exact absurd h List.not_mem_nil
  | cons c rest ih =>
    rw [lowerAfter_cons, List.mem_append] at h
    exact h.elim isSmall_of_mem_smallForms ih

theorem lowerAfter_eq_self {text : List Char} (h : ∀ c ∈ text, IsSmall c) (before : List Char) :
    lowerAfter before text = text := by
  induction text generalizing before with
  | nil => rfl
  | cons c rest ih =>
    rw [List.forall_mem_cons] at h
    obtain ⟨⟨hsame, hsigma, hdotted⟩, hrest⟩ := h
    rw [lowerAfter_cons, ih hrest, smallForms, if_neg hsigma, if_neg hdotted, hsame]
    rfl

theorem startsCased_map_toLower (text : List Char) :
    startsCased (text.map Char.toLower) = startsCased text := by
  have hignorable : caseIgnorableRuns.contains ∘ Char.toLower = caseIgnorableRuns.contains := by
    funext c
    exact of_toLower (P := fun c small => caseIgnorableRuns.contains small
      = caseIgnorableRuns.contains c) (fun _ => rfl) (by decide) c
  have hcased (c : Char) : casedRuns.contains c.toLower = casedRuns.contains c :=
    of_toLower (P := fun c small => casedRuns.contains small = casedRuns.contains c)
      (fun _ => rfl) (by decide) c
  rw [startsCased, startsCased, List.dropWhile_map, hignorable]
  cases text.dropWhile caseIgnorableRuns.contains with
  | nil => rfl
  | cons c rest => exact hcased c

theorem smallForms_map_toLower (before : List Char) (c : Char) (rest : List Char) :
    smallForms (before.map Char.toLower) c.toLower (rest.map Char.toLower)
      = smallForms before c rest := by
  have hsigma : c.toLower = 'Σ' ↔ c = 'Σ' := toLower_eq_iff (by decide) c
  have hdotted : c.toLower = 'İ' ↔ c = 'İ' := toLower_eq_iff (by decide) c
  simp only [smallForms, hsigma, hdotted, startsCased_map_toLower, lowerChar_toLower]

/-- It does not matter which ASCII letters of a text are capitals. -/
theorem lowerAfter_map_toLower (before text : List Char) :
    lowerAfter (before.map Char.toLower) (text.map Char.toLower) = lowerAfter before text := by
  induction text generalizing before with
  | nil => rfl
  | cons c rest ih =>
    rw [List.map_cons, lowerAfter_cons, lowerAfter_cons, smallForms_map_toLower, ← ih]
    rfl

/-! ### White space -/

/-- White space is its own small form, and no small form of anything else. -/
theorem smallForms_of_isBlank {before rest : List Char} {c : Char} (h : isBlank c = true) :
    smallForms before c rest = [c] := by
  rcases smallForms_cases before c rest with ⟨heq, -, -⟩ | ⟨hnot, -⟩
  · rw [heq, lowerChar_of_isBlank h]
  · exact absurd h (by simp [hnot])

theorem exists_smallForms_of_not_isBlank (before rest : List Char) {c : Char}
    (h : isBlank c = false) :
    ∃ d more, smallForms before c rest = d :: more ∧ ∀ e ∈ d :: more, isBlank e = false := by
  rcases smallForms_cases before c rest with ⟨heq, -, -⟩ | ⟨-, heq | heq | heq⟩
  · refine ⟨lowerChar c, [], heq, ?_⟩
    rw [List.forall_mem_singleton, isBlank_lowerChar, h]
  · exact ⟨_, _, heq, List.forall_mem_singleton.mpr (by decide)⟩
  · exact ⟨_, _, heq, List.forall_mem_singleton.mpr (by decide)⟩
  · exact ⟨_, _, heq,
      List.forall_mem_cons.mpr ⟨by decide, List.forall_mem_singleton.mpr (by decide)⟩⟩

/-- White space in front is dropped before or after. -/
theorem dropWhile_lowerAfter (before text : List Char) :
    (lowerAfter before text).dropWhile isBlank
      = lowerAfter ((text.takeWhile isBlank).reverse ++ before) (text.dropWhile isBlank) := by
  induction text generalizing before with
  | nil => rfl
  | cons c rest ih =>
    cases hc : isBlank c with
    | true =>
      rw [lowerAfter_cons, smallForms_of_isBlank hc, List.cons_append, List.nil_append,
        List.dropWhile_cons_of_pos hc, List.dropWhile_cons_of_pos hc,
        List.takeWhile_cons_of_pos hc, List.reverse_cons, List.append_assoc]
      exact ih (c :: before)
    | false =>
      have hnot : ¬isBlank c = true := by simp [hc]
      obtain ⟨d, more, hforms, hmore⟩ := exists_smallForms_of_not_isBlank before rest hc
      rw [List.dropWhile_cons_of_neg hnot, List.takeWhile_cons_of_neg hnot, lowerAfter_cons, hforms,
        List.cons_append, List.dropWhile_cons_of_neg (by simp [hmore d List.mem_cons_self]),
        List.reverse_nil, List.nil_append, lowerAfter_cons, hforms, List.cons_append]

theorem dropWhile_lowerAfter_eq_self {text : List Char} (h : text.dropWhile isBlank = text)
    (before : List Char) :
    (lowerAfter before text).dropWhile isBlank = lowerAfter before text := by
  have htake : text.takeWhile isBlank = [] := by
    have hsplit := List.takeWhile_append_dropWhile (p := isBlank) (l := text)
    rwa [h, List.append_left_eq_self] at hsplit
  rw [dropWhile_lowerAfter, htake, h]
  rfl

/-- A squeezed text is squeezed in small letters too. -/
theorem squeeze_lowerAfter {text : List Char} (h : squeeze text = text) (before : List Char) :
    squeeze (lowerAfter before text) = lowerAfter before text := by
  induction text generalizing before with
  | nil => rfl
  | cons c rest ih =>
    obtain ⟨hrest, hblank⟩ := of_squeeze_cons_eq_self h
    have hlower := ih hrest (c :: before)
    rw [lowerAfter_cons]
    cases hc : isBlank c with
    | true =>
      obtain ⟨rfl, d, more, rfl, hd⟩ := hblank hc
      rw [smallForms_of_isBlank hc, List.cons_append, List.nil_append, squeeze_cons_of_isBlank hc,
        hlower]
      -- no white space follows in small letters either
      obtain ⟨e, others, hforms, hnot⟩ := exists_smallForms_of_not_isBlank (' ' :: before) more hd
      rw [lowerAfter_cons, hforms, List.cons_append,
        spaced_cons_of_not_isBlank (hnot e List.mem_cons_self)]
    | false =>
      obtain ⟨e, others, hforms, hnot⟩ := exists_smallForms_of_not_isBlank before rest hc
      rw [hforms, squeeze_append_of_not_isBlank hnot, hlower]

end Text

end MarkupFeed
