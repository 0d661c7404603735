import MarkupFeed.Markup.Entity
import MarkupFeed.Proofs.Text.Items

/-!
# Escaping and its inverse

Escaped text, and the text back from it.

`unescape_escape` is the round trip. An escaped text has no `<` (`less_not_mem_escape`), so that
what is put around it stays apart from it, and it has the line ends of the text, in the same places
(`exists_of_escape_eq`).
-/

namespace MarkupFeed.Entity

/-- The references, with the characters they stand for. -/
def references : List (String × Char) :=
  [("&amp;", '&'), ("&lt;", '<'), ("&gt;", '>'), ("&quot;", '"')]

/-- The character whose reference stands at the front of a text, and the length of the
reference. -/
def reference? (text : Bytes) : Option (UInt8 × Nat) :=
  (references.find? fun entry => (Bytes.ascii entry.1).isPrefixOf text).map
    fun entry => (entry.2.toUInt8, entry.1.length)

/-- The text with every reference replaced by its character. -/
def unescape (text : Bytes) : Bytes := Bytes.items reference? id text

/-- Whether the octet is written as a reference. -/
def IsReserved (b : UInt8) : Prop :=
  b = '&'.toUInt8 ∨ b = '<'.toUInt8 ∨ b = '>'.toUInt8 ∨ b = '"'.toUInt8

theorem reference_of_not_isReserved {b : UInt8} (h : ¬IsReserved b) : reference b = [b] := by
  simp only [IsReserved, not_or] at h
  obtain ⟨hamp, hless, hgreater, hquote⟩ := h
  rw [reference, if_neg hamp, if_neg hless, if_neg hgreater, if_neg hquote]

theorem escape_cons (b : UInt8) (text : Bytes) : escape (b :: text) = reference b ++ escape text :=
  rfl

/-! ### The round trip -/

theorem reference?_reference {b : UInt8} (h : IsReserved b) (rest : Bytes) :
    reference? (reference b ++ rest) = some (b, (reference b).length) := by
  rcases h with rfl | rfl | rfl | rfl <;> rfl

/-- Only an ampersand begins a reference. -/
theorem reference?_cons {b : UInt8} (h : b ≠ '&'.toUInt8) (rest : Bytes) :
    reference? (b :: rest) = none := by
  have hother : ∀ more, List.isPrefixOf ('&'.toUInt8 :: more) (b :: rest) = false :=
    fun more => Bytes.isPrefixOf_of_ne h more rest
  have hnone : ∀ entry ∈ references,
      ¬(Bytes.ascii entry.1).isPrefixOf (b :: rest) = true := by
    simp only [references, List.forall_mem_cons, Bool.not_eq_true]
    exact ⟨hother _, hother _, hother _, hother _, List.forall_mem_nil _⟩
  rw [reference?, List.find?_eq_none.mpr hnone]
  rfl

theorem unescape_reference (b : UInt8) (rest : Bytes) :
    unescape (reference b ++ rest) = b :: unescape rest := by
  by_cases hb : IsReserved b
  · have hne : reference b ≠ [] := by
      rcases hb with rfl | rfl | rfl | rfl <;> exact List.cons_ne_nil _ _
    exact Bytes.items_of_some hne (reference?_reference hb rest)
  · have hamp : b ≠ '&'.toUInt8 := fun h => hb (.inl h)
    rw [reference_of_not_isReserved hb]
    exact Bytes.items_append_of_none
      (List.forall_mem_singleton.mpr (reference?_cons hamp)) rest

/-- Escaped text is read back as it was. -/
theorem unescape_escape (text : Bytes) : unescape (escape text) = text := by
  induction text with
  | nil => rfl
  | cons b text ih => rw [escape_cons, unescape_reference, ih]

/-! ### The octets of escaped text -/

theorem less_not_mem_escape (text : Bytes) : '<'.toUInt8 ∉ escape text := by
  intro hmem
  obtain ⟨b, -, hb⟩ := List.mem_flatMap.mp hmem
  by_cases hres : IsReserved b
  · rcases hres with rfl | rfl | rfl | rfl <;> exact absurd hb (by decide)
  · rw [reference_of_not_isReserved hres, List.mem_singleton] at hb
    exact hres (.inr (.inl hb.symm))

theorem reference_of_lineEnd_mem {b c : UInt8}
    (hb : b = Octet.lineFeed ∨ b = Octet.carriageReturn) (h : b ∈ reference c) :
    c = b ∧ reference c = [b] := by
  by_cases hc : IsReserved c
  · -- no reference has a line end
    rcases hc with rfl | rfl | rfl | rfl <;> rcases hb with rfl | rfl <;> exact absurd h (by decide)
  · have href := reference_of_not_isReserved hc
    obtain rfl : b = c := List.mem_singleton.mp (href ▸ h)
    exact ⟨rfl, href⟩

/-- A line end of an escaped text stands where the text has it. -/
theorem exists_of_escape_eq {b : UInt8} (hb : b = Octet.lineFeed ∨ b = Octet.carriageReturn)
    {text before after : Bytes} (h : escape text = before ++ b :: after) :
    ∃ front back, text = front ++ b :: back ∧ escape front = before := by
  induction text generalizing before with
  | nil => exact absurd h (by simp [escape])
  | cons c text ih =>
    rw [escape_cons] at h
    rcases List.append_eq_append_iff.mp h with ⟨more, hbefore, htext⟩ | ⟨more, href, hrest⟩
    · -- it stands behind the first octet
      obtain ⟨front, back, rfl, hfront⟩ := ih htext
      exact ⟨c :: front, back, rfl, by rw [escape_cons, hfront, hbefore]⟩
    cases more with
    | nil =>
      obtain ⟨front, back, rfl, hfront⟩ := @ih [] hrest.symm
      refine ⟨c :: front, back, rfl, ?_⟩
      rw [escape_cons, hfront, href, List.append_nil, List.append_nil]
    | cons d more =>
      -- it is the first octet
      obtain rfl : b = d := (List.cons.inj hrest).1
      obtain ⟨rfl, hsingle⟩ :=
        reference_of_lineEnd_mem hb (href ▸ List.mem_append_right _ List.mem_cons_self)
      rw [hsingle] at href
      have hbefore : before = [] := by
        cases before with
        | nil => rfl
        | cons x before => exact absurd (congrArg List.length href) (by simp)
      exact ⟨[], text, rfl, hbefore.symm⟩

end MarkupFeed.Entity
