import MarkupFeed.Bytes

/-!
# Texts read from left to right, item by item

What items there are is a parameter: `find?` says of a text which one stands at its front and how
many octets it has, and an octet where none stands is an item by itself. References in markup and
brackets of spans are read in this way.
-/

namespace MarkupFeed.Bytes

variable {α : Type} (find? : Bytes → Option (α × Nat)) (single : UInt8 → α)

/-- The items of a text of which the first `skip` octets belong to an item already found. -/
def itemsAfter : Nat → Bytes → List α
  | _, [] => []
  | skip + 1, _ :: rest => itemsAfter skip rest
  | 0, b :: rest =>
    match find? (b :: rest) with
    | some (item, size) => item :: itemsAfter (size - 1) rest
    | none => single b :: itemsAfter 0 rest

/-- The items of a text. -/
def items (text : Bytes) : List α := itemsAfter find? single 0 text

theorem itemsAfter_append (found rest : Bytes) :
    itemsAfter find? single found.length (found ++ rest) = items find? single rest := by
  induction found with
  | nil => rfl
  | cons b found ih => exact ih

variable {find? single}

theorem items_of_some {found rest : Bytes} {item : α} (hne : found ≠ [])
    (h : find? (found ++ rest) = some (item, found.length)) :
    items find? single (found ++ rest) = item :: items find? single rest := by
  obtain ⟨b, found, rfl⟩ := List.exists_cons_of_ne_nil hne
  rw [List.cons_append] at h
  rw [items, List.cons_append, itemsAfter, h]
  exact congrArg (item :: ·) (itemsAfter_append find? single found rest)

/-- Octets that no item begins with stand for themselves. -/
theorem items_append_of_none {text : Bytes} (h : ∀ b ∈ text, ∀ rest, find? (b :: rest) = none)
    (rest : Bytes) :
    items find? single (text ++ rest) = text.map single ++ items find? single rest := by
  induction text with
  | nil => rfl
  | cons b text ih =>
    rw [List.forall_mem_cons] at h
    rw [List.cons_append, items, itemsAfter, h.1]
    exact congrArg (single b :: ·) (ih h.2)

/-- Texts with different first octets are not the beginning of one another. -/
theorem isPrefixOf_of_ne {b c : UInt8} (h : b ≠ c) (text rest : Bytes) :
    List.isPrefixOf (c :: text) (b :: rest) = false := by
  rw [List.isPrefixOf, beq_eq_false_iff_ne.mpr (Ne.symm h), Bool.false_and]

end MarkupFeed.Bytes
