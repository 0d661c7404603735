import Mathlib.Tactic.Push
import MarkupFeed.Proofs.Markup.Decorator
import MarkupFeed.Proofs.Markup.Entity
import MarkupFeed.Proofs.Text.Utf8

/-!
# The escaper, octet by octet

The escaper replaces octet by octet, and what it replaces can be put back.

Of the reserved characters, what stands for an octet has at most an ampersand, in front
(`Entity.eq_of_reference_eq`); so an escaped text has them only where references begin
(`Entity.isEscaped_escape`). The octets of a longer character are none of them, and the escaped
octets of a text are again those of a text (`Entity.exists_escapeText`), which is why nothing is
lost when the escaper is used on strings. Main statement: `Highlight.passAll_escaper_reversible`.
-/

namespace MarkupFeed

namespace Entity

variable {b c : UInt8} {front back text : Bytes}

/-! ### Reserved octets -/

theorem exists_of_isReserved (h : IsReserved b) :
    ∃ entry ∈ references, reference b = Bytes.ascii entry.1 := by
  rcases h with rfl | rfl | rfl | rfl <;> decide

theorem head?_reference (h : IsReserved b) : (reference b).head? = some '&'.toUInt8 := by
  rcases h with rfl | rfl | rfl | rfl <;> rfl

theorem not_isReserved_of_mem_tail (h : c ∈ (reference b).tail) : ¬IsReserved c := by
  by_cases hb : IsReserved b
  · have hall : ∀ d ∈ (reference b).tail,
        d ≠ '&'.toUInt8 ∧ d ≠ '<'.toUInt8 ∧ d ≠ '>'.toUInt8 ∧ d ≠ '"'.toUInt8 := by
      rcases hb with rfl | rfl | rfl | rfl <;> decide
    simpa [IsReserved] using hall c h
  · rw [reference_of_not_isReserved hb] at h
    exact absurd h List.not_mem_nil

/-- Of the reserved characters, what stands for an octet has at most an ampersand, in front, and
then it is a reference. -/
theorem eq_of_reference_eq (hc : IsReserved c) (h : reference b = front ++ c :: back) :
    front = [] ∧ c = '&'.toUInt8 ∧ IsReserved b := by
  cases front with
  | cons d front =>
    have hmem : c ∈ (reference b).tail := by simp [h]
    exact absurd hc (not_isReserved_of_mem_tail hmem)
  | nil =>
    have hb : IsReserved b := Classical.byContradiction fun hb => by
      rw [reference_of_not_isReserved hb] at h
      exact hb ((List.cons.inj h).1 ▸ hc)
    have hhead := head?_reference hb
    rw [h] at hhead
    exact ⟨rfl, Option.some.inj hhead, hb⟩

/-- A text that has reserved characters only where references begin. -/
def IsEscaped (text : Bytes) : Prop :=
  ∀ front b back, text = front ++ b :: back → IsReserved b →
    ∃ entry ∈ references, Bytes.ascii entry.1 <+: b :: back

theorem isEscaped_escape (text : Bytes) : IsEscaped (escape text) := by
  intro front b back h hb
  induction text generalizing front with
  | nil => exact absurd h (by simp [escape])
  | cons c text ih =>
    rw [escape_cons] at h
    rcases List.append_eq_append_iff.mp h with ⟨more, -, htext⟩ | ⟨more, href, hrest⟩
    · exact ih more htext
    cases more with
    | nil => exact ih [] hrest.symm
    | cons d more =>
      -- it belongs to what stands for the first octet
      obtain ⟨rfl, rfl⟩ := List.cons.inj hrest
      obtain ⟨rfl, -, hc⟩ := eq_of_reference_eq hb href
      obtain ⟨entry, hentry, heq⟩ := exists_of_isReserved hc
      refine ⟨entry, hentry, escape text, ?_⟩
      rw [← heq, href]
      rfl

theorem eq_ampersand_of_mem_escape (h : b ∈ escape text) (hb : IsReserved b) :
    b = '&'.toUInt8 := by
  obtain ⟨c, -, hc⟩ := List.mem_flatMap.mp h
  obtain ⟨front, back, heq⟩ := List.append_of_mem hc
  exact (eq_of_reference_eq hb heq).2.1

/-! ### Characters -/

theorem isReserved_of_ne_none (h : Escapes.Kind.reserved? b ≠ none) : IsReserved b := by
  unfold Escapes.Kind.reserved? at h
  grind [IsReserved]

/-- No reserved octet is part of a longer character, so that characters are escaped as a whole. -/
theorem exists_escape_utf8EncodeChar (c : Char) :
    ∃ text, escape (String.utf8EncodeChar c) = Utf8.encode text := by
  by_cases h : ∀ b ∈ String.utf8EncodeChar c, Escapes.Kind.reserved? b = none
  · refine ⟨String.ofList [c], ?_⟩
    rw [References.escape_of_not_reserved h, Utf8.encode, String.toList_ofList,
      List.flatMap_singleton]
  · push Not at h
    obtain ⟨b, hb, hne⟩ := h
    have hres : IsReserved b := isReserved_of_ne_none hne
    have hc : c = Char.ofNat b.toNat := by
      rw [← Utf8.eq_of_mem_utf8EncodeChar hb (by rcases hres with rfl | rfl | rfl | rfl <;> decide),
        Char.ofNat_toNat]
    have hall : ∃ entry ∈ references, escape (String.utf8EncodeChar c) = Utf8.encode entry.1 := by
      rw [hc]
      rcases hres with rfl | rfl | rfl | rfl <;> decide
    obtain ⟨entry, -, heq⟩ := hall
    exact ⟨entry.1, heq⟩

theorem exists_escapeText (text : String) : ∃ escaped, escapeText text = Utf8.encode escaped := by
  unfold escapeText Utf8.encode
  induction text.toList with
  | nil => exact ⟨"", rfl⟩
  | cons c chars ih =>
    obtain ⟨first, hfirst⟩ := exists_escape_utf8EncodeChar c
    obtain ⟨rest, hrest⟩ := ih
    refine ⟨first ++ rest, ?_⟩
    rw [List.flatMap_cons, escape_append, hfirst, hrest]
    exact (Utf8.encode_append first rest).symm

end Entity

/-! ### The escaper -/

namespace Highlight

theorem encode_escaped (text : String) : Utf8.encode (escaped text) = Entity.escapeText text := by
  obtain ⟨result, h⟩ := Entity.exists_escapeText text
  have happly : escaper.apply (Utf8.encode text) = Utf8.encode result := by
    rw [apply, passAll_escaper, List.flatten_singleton, ← h, Entity.escapeText]
  rw [escaped, happly, Utf8.decodeLossy_encode, h]

/-- However a text is cut, the escaper writes each octet of it as what stands for it. So what it
writes for two texts is what it writes for both together; of the reserved characters there are only
ampersands, each with a reference; and with the references replaced the text is there again. On
strings it does the same. -/
theorem passAll_escaper_reversible (parts : List Bytes) :
    let output (parts : List Bytes) : Bytes := (escaper.fresh.passAll parts).2
    output parts = parts.flatten.flatMap Entity.reference
      ∧ (∀ more, output (parts ++ more) = output parts ++ output more)
      ∧ (∀ b ∈ output parts, Entity.IsReserved b → b = '&'.toUInt8)
      ∧ Entity.IsEscaped (output parts)
      ∧ Entity.unescape (output parts) = parts.flatten
      ∧ ∀ text, Utf8.encode (escaped text) = output [Utf8.encode text] := by
  intro output
  have houtput : ∀ parts, output parts = Entity.escape parts.flatten := passAll_escaper
  simp only [houtput]
  refine ⟨rfl, ?_, ?_, ?_, ?_, ?_⟩
  · intro more
    rw [List.flatten_append, Entity.escape_append]
  · intro b hb hres
    exact Entity.eq_ampersand_of_mem_escape hb hres
  · exact Entity.isEscaped_escape parts.flatten
  · exact Entity.unescape_escape parts.flatten
  · intro text
    rw [encode_escaped, List.flatten_singleton, Entity.escapeText]

end Highlight

end MarkupFeed
