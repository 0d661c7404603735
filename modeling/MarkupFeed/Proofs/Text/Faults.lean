import MarkupFeed.Proofs.Text.Decoding

/-!
# The octets of a fault, and of what is shown for it

A fault is made of at most three octets (`exists_of_readFrom_eq_fault`), and U+FFFD, which is shown
for it, has three. So the octets of the text that octets are decoded to are at least as many
(`length_le_encode_decodeLossy`), and they are the same ones only where no fault is shown
(`encode_decodeLossy_eq_iff`).
-/

namespace MarkupFeed.Utf8

variable {low high b : UInt8} {value owed : Nat} {input : Bytes} {more : List (Option Char)}

/-! ### The octets of a fault -/

theorem step_of_not_within (hin : ¬(low ≤ b && b ≤ high) = true) :
    (Reader.inside owed low high value).step b
      = (none :: (Reader.lead b).1, (Reader.lead b).2) := by
  cases owed <;> rw [Reader.step, if_neg hin]

/-- Where a character in progress comes to a fault, at most as many octets of it were read as come
in front of the last one. -/
theorem exists_of_inside_eq_fault
    (h : readFrom (.inside owed low high value) input = none :: more) :
    ∃ front rest, input = front ++ rest ∧ front.length ≤ owed ∧ readFrom .fresh rest = more := by
  induction input generalizing owed low high value with
  | nil => exact ⟨[], [], rfl, Nat.zero_le _, (List.cons.inj h).2⟩
  | cons b rest ih =>
    rw [readFrom_cons] at h
    by_cases hin : (low ≤ b && b ≤ high) = true
    · cases owed with
      | zero =>
        -- this octet completes the character
        rw [Reader.step, if_pos hin] at h
        exact absurd (List.cons.inj h).1 (by simp)
      | succ owed =>
        rw [Reader.step, if_pos hin] at h
        obtain ⟨front, rest, rfl, hlength, hrest⟩ := ih h
        exact ⟨b :: front, rest, rfl, Nat.succ_le_succ hlength, hrest⟩
    · rw [step_of_not_within hin] at h
      exact ⟨[], b :: rest, rfl, Nat.zero_le _, (List.cons.inj h).2⟩

/-- A first octet is a character or a fault by itself, or is owed up to three others. -/
theorem lead_cases (b : UInt8) :
    (∃ c, Reader.lead b = ([some c], .fresh)) ∨ Reader.lead b = ([none], .fresh)
      ∨ ∃ owed ≤ 2, ∃ low high value, Reader.lead b = ([], .inside owed low high value) := by
  rcases hlead : Reader.lead b with ⟨done, next⟩
  unfold Reader.lead at hlead
  repeat' split at hlead
  all_goals
    obtain ⟨rfl, rfl⟩ := Prod.mk.inj hlead
    simp

/-- A fault is made of at most three octets. -/
theorem exists_of_readFrom_eq_fault (h : readFrom .fresh (b :: input) = none :: more) :
    ∃ fault rest, b :: input = fault ++ rest ∧ fault ≠ [] ∧ fault.length ≤ 3
      ∧ readFrom .fresh rest = more := by
  rw [readFrom_cons, Reader.step] at h
  rcases lead_cases b with ⟨c, hlead⟩ | hlead | ⟨owed, howed, low, high, value, hlead⟩
  · rw [hlead] at h
    exact absurd (List.cons.inj h).1 (by simp)
  · rw [hlead] at h
    exact ⟨[b], input, rfl, List.cons_ne_nil _ _, by simp, (List.cons.inj h).2⟩
  · rw [hlead, List.nil_append] at h
    obtain ⟨front, rest, rfl, hlength, hrest⟩ := exists_of_inside_eq_fault h
    refine ⟨b :: front, rest, rfl, List.cons_ne_nil _ _, ?_, hrest⟩
    rw [List.length_cons]
    omega

/-! ### What is shown for octets -/

/-- The octets of what is shown for characters and faults. -/
def shownOctets (found : List (Option Char)) : Bytes :=
  found.flatMap fun x => String.utf8EncodeChar (x.getD '\ufffd')

theorem encode_decodeLossy (octets : Bytes) :
    encode (decodeLossy octets) = shownOctets (read octets) := by
  rw [encode, decodeLossy, String.toList_ofList, decodeChars, List.flatMap_map, shownOctets]

theorem shownOctets_cons (x : Option Char) (found : List (Option Char)) :
    shownOctets (x :: found) = String.utf8EncodeChar (x.getD '\ufffd') ++ shownOctets found :=
  List.flatMap_cons

/-- What is shown for the first octets has at least as many as these. -/
theorem exists_of_readFrom_eq_shown {x : Option Char}
    (h : readFrom .fresh (b :: input) = x :: more) :
    ∃ front rest, b :: input = front ++ rest ∧ front ≠ []
      ∧ front.length ≤ (String.utf8EncodeChar (x.getD '\ufffd')).length
      ∧ readFrom .fresh rest = more := by
  cases x with
  | none => exact exists_of_readFrom_eq_fault h
  | some c =>
    obtain ⟨rest, hinput, hrest⟩ := exists_of_readFrom_eq_cons h
    have hpos : 0 < (String.utf8EncodeChar c).length := by
      rw [String.length_utf8EncodeChar]
      exact c.utf8Size_pos
    exact ⟨_, rest, hinput, List.length_pos_iff.mp hpos, Nat.le_refl _, hrest⟩

theorem length_le_shownOctets (octets : Bytes) :
    octets.length ≤ (shownOctets (readFrom .fresh octets)).length := by
  induction hlength : octets.length using Nat.strongRecOn generalizing octets with
  | ind n ih =>
    subst hlength
    cases octets with
    | nil => exact Nat.zero_le _
    | cons b input =>
      rcases hread : readFrom .fresh (b :: input) with _ | ⟨x, more⟩
      · exact absurd hread (readFrom_ne_nil (.inr (List.cons_ne_nil _ _)))
      · obtain ⟨front, rest, hinput, hne, hfront, rfl⟩ := exists_of_readFrom_eq_shown hread
        have hpos := List.length_pos_iff.mpr hne
        rw [hinput, List.length_append, shownOctets_cons, List.length_append]
        refine Nat.add_le_add hfront (ih rest.length ?_ rest rfl)
        rw [hinput, List.length_append]
        omega

/-- What is shown for octets has at least as many. -/
theorem length_le_encode_decodeLossy (octets : Bytes) :
    octets.length ≤ (encode (decodeLossy octets)).length := by
  rw [encode_decodeLossy]
  exact length_le_shownOctets octets

/-- Octets are shown as they are only where they are read without a fault. -/
theorem encode_decodeLossy_eq_iff {octets : Bytes} :
    encode (decodeLossy octets) = octets ↔ (decode? octets).isSome := by
  rw [Option.isSome_iff_exists]
  constructor
  · intro h
    exact ⟨decodeLossy octets, decode?_eq_some_iff.mpr h.symm⟩
  · rintro ⟨text, htext⟩
    rw [decode?_eq_some_iff.mp htext, decodeLossy_encode]

end MarkupFeed.Utf8
