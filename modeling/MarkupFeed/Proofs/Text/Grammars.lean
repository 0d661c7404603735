import Mathlib.Computability.Language
import MarkupFeed.Bytes

/-!
# Grammars of octets

Languages of octets, as a grammar writes them.

A grammar is built from octets of a class (`one`), repetitions of them (`many`, `many1`) and
optional parts, with the sum and the product of languages. What a text of such a language begins
with, and what has to follow it, is read off by the lemmas of this module: for each construct in
front of another one there is an equivalence for the empty text and one for a text with a first
octet. None of them splits a text at an unknown place, so that they can be used to rewrite.
-/

namespace MarkupFeed

/-- What is said of all octets can be checked one by one. -/
instance Octet.decidableForall (p : UInt8 → Prop) [DecidablePred p] : Decidable (∀ b, p b) :=
  decidable_of_iff (∀ n : BitVec 8, p ⟨n⟩) ⟨fun h b => h b.toBitVec, fun h n => h ⟨n⟩⟩

namespace Grammar

open Computability

/-- The texts of one octet of a class. -/
def one (p : UInt8 → Bool) : Language UInt8 := {text | ∃ b, p b = true ∧ text = [b]}

/-- The text of one (ASCII) character. -/
def char (c : Char) : Language UInt8 := one (· == c.toUInt8)

/-- The texts of octets of a class. -/
def many (p : UInt8 → Bool) : Language UInt8 := (one p)∗

/-- The texts of at least one octet of a class. -/
def many1 (p : UInt8 → Bool) : Language UInt8 := one p * many p

/-- The texts of a language, and the empty one. -/
def optional (l : Language UInt8) : Language UInt8 := 1 + l

variable {p : UInt8 → Bool} {l l' k : Language UInt8} {b : UInt8} {rest : Bytes}

/-! ### One octet -/

@[simp] theorem nil_mem_one : [] ∈ one p ↔ False := by
  constructor
  · rintro ⟨b, -, hb⟩
    exact absurd hb (by simp)
  · exact False.elim

@[simp] theorem cons_mem_one : b :: rest ∈ one p ↔ p b = true ∧ rest = [] := by
  constructor
  · rintro ⟨c, hc, heq⟩
    obtain ⟨rfl, rfl⟩ := List.cons.inj heq
    exact ⟨hc, rfl⟩
  · rintro ⟨hb, rfl⟩
    exact ⟨b, hb, rfl⟩

@[simp] theorem nil_mem_one_mul : [] ∈ one p * k ↔ False := by
  constructor
  · rintro ⟨text, ⟨b, -, rfl⟩, more, -, heq⟩
    exact absurd heq (by simp)
  · exact False.elim

@[simp] theorem cons_mem_one_mul : b :: rest ∈ one p * k ↔ p b = true ∧ rest ∈ k := by
  constructor
  · rintro ⟨text, ⟨c, hc, rfl⟩, more, hmore, heq⟩
    obtain ⟨rfl, rfl⟩ := List.cons.inj heq
    exact ⟨hc, hmore⟩
  · rintro ⟨hb, hrest⟩
    exact ⟨[b], ⟨b, hb, rfl⟩, rest, hrest, rfl⟩

@[simp] theorem nil_mem_char_mul {c : Char} : [] ∈ char c * k ↔ False := nil_mem_one_mul

@[simp] theorem cons_mem_char_mul {c : Char} :
    b :: rest ∈ char c * k ↔ b = c.toUInt8 ∧ rest ∈ k := by
  rw [char, cons_mem_one_mul, beq_iff_eq]

/-! ### Sums and products -/

theorem mem_add_mul {text : Bytes} : text ∈ (l + l') * k ↔ text ∈ l * k ∨ text ∈ l' * k := by
  rw [add_mul, Language.mem_add]

/-- An optional part is there, or the text goes on without it. -/
@[simp] theorem mem_optional_mul {text : Bytes} :
    text ∈ optional l * k ↔ text ∈ k ∨ text ∈ l * k := by
  rw [optional, mem_add_mul, one_mul]

@[simp] theorem mem_optional {text : Bytes} : text ∈ optional l ↔ text = [] ∨ text ∈ l := by
  rw [optional, Language.mem_add, Language.mem_one]

/-! ### Repetitions -/

/-- A repetition in front of a language: one more round, or none. -/
theorem kstar_mul (l k : Language UInt8) : l∗ * k = k + l * (l∗ * k) := by
  calc l∗ * k = (1 + l * l∗) * k := by rw [Language.one_add_self_mul_kstar_eq_kstar]
    _ = k + l * (l∗ * k) := by rw [add_mul, one_mul, mul_assoc]

theorem mem_kstar_mul {text : Bytes} : text ∈ l∗ * k ↔ text ∈ k ∨ text ∈ l * (l∗ * k) := by
  conv_lhs => rw [kstar_mul]
  exact Language.mem_add _ _ _

@[simp] theorem nil_mem_many_mul : [] ∈ many p * k ↔ [] ∈ k := by
  rw [many, mem_kstar_mul, nil_mem_one_mul, or_false]

@[simp] theorem cons_mem_many_mul :
    b :: rest ∈ many p * k ↔ b :: rest ∈ k ∨ p b = true ∧ rest ∈ many p * k := by
  rw [many, mem_kstar_mul, cons_mem_one_mul]

@[simp] theorem nil_mem_many : [] ∈ many p := Language.nil_mem_kstar _

@[simp] theorem cons_mem_many : b :: rest ∈ many p ↔ p b = true ∧ rest ∈ many p := by
  have h : b :: rest ∈ many p * 1
      ↔ b :: rest ∈ (1 : Language UInt8) ∨ p b = true ∧ rest ∈ many p * 1 := cons_mem_many_mul
  simpa using h

@[simp] theorem nil_mem_many1 : [] ∈ many1 p ↔ False := nil_mem_one_mul

@[simp] theorem cons_mem_many1 : b :: rest ∈ many1 p ↔ p b = true ∧ rest ∈ many p :=
  cons_mem_one_mul

@[simp] theorem nil_mem_many1_mul : [] ∈ many1 p * k ↔ False := by
  rw [many1, mul_assoc, nil_mem_one_mul]

@[simp] theorem cons_mem_many1_mul :
    b :: rest ∈ many1 p * k ↔ p b = true ∧ rest ∈ many p * k := by
  rw [many1, mul_assoc, cons_mem_one_mul]

end Grammar

end MarkupFeed
