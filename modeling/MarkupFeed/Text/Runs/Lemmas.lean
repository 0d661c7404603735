import MarkupFeed.Text.Runs

/-!
# The members of combined sets

The operations on sets of characters have one rule each for whether a character stays, given
whether it is in the one set and in the other. On sets whose changes ascend, the result has exactly
the members that the rule keeps (`contains_combine`); what two sets have in common is the case that
is needed (`contains_inter`).

This follows the one reading behind all operations. While a character lies above the changes read so
far, reading a change turns its membership round in one set or in both (`contains_combineFrom`);
once it lies below one, no later change concerns it.
-/

namespace MarkupFeed.Runs

/-! ### Membership across a change -/

/-- The changes ascend. -/
abbrev Ascending (runs : Runs) : Prop := List.Pairwise (· < ·) runs

theorem contains_cons (change : Nat) (later : Runs) (c : Char) :
    contains (change :: later) c = (decide (change ≤ c.toNat) && !contains later c) := rfl

/-- A character below all changes is not in the set. -/
theorem contains_of_lt {runs : Runs} {c : Char} (h : ∀ change ∈ runs, c.toNat < change) :
    contains runs c = false := by
  cases runs with
  | nil => rfl
  | cons change later => simp [contains_cons, Nat.not_le.mpr (h change List.mem_cons_self)]

/-- Reading across a change keeps track of membership. -/
theorem bne_contains_cons (side : Bool) {change : Nat} (later : Runs) {c : Char}
    (h : change ≤ c.toNat) :
    (side != contains (change :: later) c) = (!side != contains later c) := by
  simp [contains_cons, h]

/-- Above a change, membership is counted on from the other side of it. -/
theorem contains_emit_of_le (before after : Bool) {change : Nat} (later : Runs) {c : Char}
    (h : change ≤ c.toNat) :
    contains (emit before after change later) c = (before != (after != contains later c)) := by
  cases before <;> cases after <;> simp [emit, contains_cons, h]

/-- Below a change there is no member where there is none among the later ones. -/
theorem contains_emit_of_lt (before after : Bool) {change : Nat} {later : Runs} {c : Char}
    (h : c.toNat < change) (hlater : contains later c = false) :
    contains (emit before after change later) c = false := by
  unfold emit
  split
  · exact hlater
  · simp [contains_cons, Nat.not_le.mpr h]

/-- A character below the first of ascending changes is not in the set of the later ones. -/
theorem contains_tail_of_lt {change : Nat} {later : Runs} {c : Char}
    (h : Ascending (change :: later)) (hc : c.toNat < change) : contains later c = false :=
  contains_of_lt fun _ hx => Nat.lt_trans hc (List.rel_of_pairwise_cons h hx)

/-! ### Membership in a combined set -/

/-- Reading on from a point, the combined membership is what the rule makes of both memberships,
counted from the sides on which the reading stands. -/
theorem contains_combineFrom (keep : Bool → Bool → Bool) (c : Char) (fuel : Nat)
    (in₁ in₂ : Bool) (runs₁ runs₂ : Runs) (h₁ : Ascending runs₁) (h₂ : Ascending runs₂)
    (hfuel : runs₁.length + runs₂.length ≤ fuel) :
    contains (combineFrom keep fuel in₁ in₂ runs₁ runs₂) c
      = (keep in₁ in₂ != keep (in₁ != contains runs₁ c) (in₂ != contains runs₂ c)) := by
  fun_induction combineFrom keep fuel in₁ in₂ runs₁ runs₂ with
  | case1 in₁ in₂ runs₁ runs₂ =>
    have e₁ : runs₁ = [] := List.eq_nil_of_length_eq_zero (by omega)
    have e₂ : runs₂ = [] := List.eq_nil_of_length_eq_zero (by omega)
    simp [e₁, e₂, contains]
  | case2 => simp [contains]
  | case3 in₁ in₂ fuel a as ih =>
    have ih := ih h₁.of_cons h₂ (by simp at hfuel ⊢; omega)
    by_cases h : a ≤ c.toNat
    · rw [contains_emit_of_le _ _ _ h, bne_contains_cons _ _ h, ih]
      simp
    · have hlt : c.toNat < a := by omega
      rw [contains_emit_of_lt _ _ hlt]
      · simp [contains, h]
      · simp [ih, contains_tail_of_lt h₁ hlt, contains]
  | case4 in₁ in₂ fuel b bs ih =>
    have ih := ih h₁ h₂.of_cons (by simp at hfuel ⊢; omega)
    by_cases h : b ≤ c.toNat
    · rw [contains_emit_of_le _ _ _ h, bne_contains_cons _ _ h, ih]
      simp
    · have hlt : c.toNat < b := by omega
      rw [contains_emit_of_lt _ _ hlt]
      · simp [contains, h]
      · simp [ih, contains_tail_of_lt h₂ hlt, contains]
  | case5 in₁ in₂ fuel a as b bs hab ih =>
    have ih := ih h₁.of_cons h₂ (by simp at hfuel ⊢; omega)
    by_cases h : a ≤ c.toNat
    · rw [contains_emit_of_le _ _ _ h, bne_contains_cons _ as h, ih]
      simp
    · have hlt : c.toNat < a := by omega
      have hb : ¬b ≤ c.toNat := by omega
      rw [contains_emit_of_lt _ _ hlt]
      · simp [contains, h, hb]
      · simp [ih, contains_tail_of_lt h₁ hlt, contains, hb]
  | case6 in₁ in₂ fuel a as b bs hab hba ih =>
    have ih := ih h₁ h₂.of_cons (by simp at hfuel ⊢; omega)
    by_cases h : b ≤ c.toNat
    · rw [contains_emit_of_le _ _ _ h, bne_contains_cons _ bs h, ih]
      simp
    · have hlt : c.toNat < b := by omega
      have ha : ¬a ≤ c.toNat := by omega
      rw [contains_emit_of_lt _ _ hlt]
      · simp [contains, h, ha]
      · simp [ih, contains_tail_of_lt h₂ hlt, contains, ha]
  | case7 in₁ in₂ fuel a as b bs hab hba ih =>
    obtain rfl : a = b := by omega
    have ih := ih h₁.of_cons h₂.of_cons (by simp at hfuel ⊢; omega)
    by_cases h : a ≤ c.toNat
    · rw [contains_emit_of_le _ _ _ h, bne_contains_cons _ as h, bne_contains_cons _ bs h, ih]
      simp
    · have hlt : c.toNat < a := by omega
      rw [contains_emit_of_lt _ _ hlt]
      · simp [contains, h]
      · simp [ih, contains_tail_of_lt h₁ hlt, contains_tail_of_lt h₂ hlt]

/-- A combined set has the members that the rule keeps. -/
theorem contains_combine {keep : Bool → Bool → Bool} (hkeep : keep false false = false)
    {runs₁ runs₂ : Runs} (h₁ : Ascending runs₁) (h₂ : Ascending runs₂) (c : Char) :
    (combine keep runs₁ runs₂).contains c = keep (runs₁.contains c) (runs₂.contains c) := by
  simp [combine, contains_combineFrom keep c _ _ _ _ _ h₁ h₂ (Nat.le_refl _), hkeep]

/-- Members of both sets are the members of what they have in common. -/
theorem contains_inter {runs₁ runs₂ : Runs} (h₁ : Ascending runs₁) (h₂ : Ascending runs₂)
    (c : Char) : (inter runs₁ runs₂).contains c = (runs₁.contains c && runs₂.contains c) :=
  contains_combine rfl h₁ h₂ c

end MarkupFeed.Runs
