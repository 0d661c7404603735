import MarkupFeed.Proofs.Text.Utf8

/-!
# The octets that are a text

What a reader makes of octets begins with a character only where the octets begin with those of that
character: a first octet that owes others gets all of them (`exists_trail`), and the bounds of the
second one rule out the codes that fewer octets can carry and those that no character has
(`exists_of_readFrom_eq_cons`). So octets are decoded without a fault if and only if they are those
of the text they are decoded to: `decode?_eq_some_iff`.
-/

namespace MarkupFeed.Utf8

variable {low high b : UInt8} {value owed bits : Nat} {c : Char} {input : Bytes}
  {more : List (Option Char)}

/-! ### The octets that are owed -/

theorem trail_mod (hlow : 0x80 ≤ b.toNat) (hhigh : b.toNat ≤ 0xBF) : trail (b.toNat % 64) = b := by
  refine UInt8.toNat_inj.mp ?_
  rw [toNat_trail (Nat.mod_lt _ (by decide))]
  omega

/-- A character in progress goes on with an octet within its bounds only. -/
theorem exists_trail (h : readFrom (.inside owed low high value) input = some c :: more)
    (hlow : 0x80 ≤ low.toNat) (hhigh : high.toNat ≤ 0xBF) :
    ∃ bits rest, input = trail bits :: rest ∧ bits < 64 ∧ low.toNat ≤ bits + 0x80
      ∧ bits + 0x80 ≤ high.toNat := by
  cases input with
  | nil => exact absurd h (by simp [readFrom])
  | cons b rest =>
    have hin : (low ≤ b && b ≤ high) = true := by
      refine Decidable.of_not_not fun hin => ?_
      -- outside its bounds, the octet makes a fault of those before it
      have hstep : (Reader.inside owed low high value).step b
          = (none :: (Reader.lead b).1, (Reader.lead b).2) := by
        cases owed <;> rw [Reader.step, if_neg hin]
      rw [readFrom_cons, hstep] at h
      exact absurd (List.cons.inj h).1 (by simp)
    rw [Bool.and_eq_true, decide_eq_true_eq, decide_eq_true_eq, UInt8.le_iff_toNat_le,
      UInt8.le_iff_toNat_le] at hin
    refine ⟨b.toNat % 64, rest, ?_, ?_, ?_, ?_⟩
    · rw [trail_mod (Nat.le_trans hlow hin.1) (Nat.le_trans hin.2 hhigh)]
    · exact Nat.mod_lt _ (by decide)
    · omega
    · omega

/-! ### The octets of a character -/

theorem utf8EncodeChar_ofNat {code : Nat} (h : code.isValidChar) :
    String.utf8EncodeChar (Char.ofNat code)
      = if code < 0x80 then [UInt8.ofNat code]
        else if code < 0x800 then [UInt8.ofNat (code / 64 + 0xC0), trail (code % 64)]
        else if code < 0x10000 then
          [UInt8.ofNat (code / 4096 + 0xE0), trail (code / 64 % 64), trail (code % 64)]
        else [UInt8.ofNat (code / 262144 + 0xF0), trail (code / 4096 % 64), trail (code / 64 % 64),
          trail (code % 64)] := by
  have hcode : (Char.ofNat code).val.toNat = code := by
    rw [Char.ofNat, dif_pos h]
    rfl
  have hbound : code < 0x110000 := by
    rcases h with h | h <;> omega
  rw [String.utf8EncodeChar, hcode]
  split
  · next h => rw [if_pos (by omega)]
  split
  · next hone htwo =>
    rw [if_neg (by omega), if_pos (by omega), show code / 64 % 0x20 = code / 64 by omega]
    rfl
  split
  · next hone htwo hthree =>
    rw [if_neg (by omega), if_neg (by omega), if_pos (by omega),
      show code / 4096 % 0x10 = code / 4096 by omega]
    rfl
  · next hone htwo hthree =>
    rw [if_neg (by omega), if_neg (by omega), if_neg (by omega),
      show code / 262144 % 8 = code / 262144 by omega]
    rfl

theorem exists_of_lead_two (hlow : 2 ≤ bits) (hhigh : bits < 0x20)
    (h : readFrom (.inside 0 0x80 0xBF bits) input = some c :: more) :
    ∃ rest, UInt8.ofNat (bits + 0xC0) :: input = String.utf8EncodeChar c ++ rest
      ∧ readFrom .fresh rest = more := by
  obtain ⟨last, rest, rfl, hlast, hleast, hmost⟩ := exists_trail h (by decide) (by decide)
  rw [readFrom_last hlast hleast hmost] at h
  obtain ⟨hc, hmore⟩ := List.cons.inj h
  refine ⟨rest, ?_, hmore⟩
  rw [← Option.some.inj hc, utf8EncodeChar_ofNat (.inl (by omega)), if_neg (by omega),
    if_pos (by omega), show (bits * 64 + last) / 64 = bits by omega,
    show (bits * 64 + last) % 64 = last by omega]
  rfl

theorem exists_of_lead_three (hbits : bits < 0x10)
    (h : readFrom (.inside 1 (if bits = 0 then 0xA0 else 0x80) (if bits = 13 then 0x9F else 0xBF)
      bits) input = some c :: more) :
    ∃ rest, UInt8.ofNat (bits + 0xE0) :: input = String.utf8EncodeChar c ++ rest
      ∧ readFrom .fresh rest = more := by
  obtain ⟨middle, input, rfl, hmiddle, hlow, hhigh⟩ :=
    exists_trail h (by split <;> decide) (by split <;> decide)
  rw [readFrom_trail 0 hmiddle hlow hhigh] at h
  obtain ⟨last, rest, rfl, hlast, hleast, hmost⟩ := exists_trail h (by decide) (by decide)
  rw [readFrom_last hlast hleast hmost] at h
  obtain ⟨hc, hmore⟩ := List.cons.inj h
  -- the second octet rules out what two octets can carry, and the surrogates
  have hcode : 0x800 ≤ (bits * 64 + middle) * 64 + last
      ∧ Nat.isValidChar ((bits * 64 + middle) * 64 + last) := by
    unfold Nat.isValidChar
    split at hlow <;> split at hhigh <;> simp at hlow hhigh <;> omega
  refine ⟨rest, ?_, hmore⟩
  rw [← Option.some.inj hc, utf8EncodeChar_ofNat hcode.2, if_neg (by omega), if_neg (by omega),
    if_pos (by omega), show ((bits * 64 + middle) * 64 + last) / 4096 = bits by omega,
    show ((bits * 64 + middle) * 64 + last) / 64 % 64 = middle by omega,
    show ((bits * 64 + middle) * 64 + last) % 64 = last by omega]
  rfl

theorem exists_of_lead_four (hbits : bits < 5)
    (h : readFrom (.inside 2 (if bits = 0 then 0x90 else 0x80) (if bits = 4 then 0x8F else 0xBF)
      bits) input = some c :: more) :
    ∃ rest, UInt8.ofNat (bits + 0xF0) :: input = String.utf8EncodeChar c ++ rest
      ∧ readFrom .fresh rest = more := by
  obtain ⟨second, input, rfl, hsecond, hlow, hhigh⟩ :=
    exists_trail h (by split <;> decide) (by split <;> decide)
  rw [readFrom_trail 1 hsecond hlow hhigh] at h
  obtain ⟨third, input, rfl, hthird, hleast, hmost⟩ := exists_trail h (by decide) (by decide)
  rw [readFrom_trail 0 hthird hleast hmost] at h
  obtain ⟨last, rest, rfl, hlast, hleast, hmost⟩ := exists_trail h (by decide) (by decide)
  rw [readFrom_last hlast hleast hmost] at h
  obtain ⟨hc, hmore⟩ := List.cons.inj h
  -- the second octet rules out what three octets can carry, and what no character has
  have hcode : 0x10000 ≤ ((bits * 64 + second) * 64 + third) * 64 + last
      ∧ Nat.isValidChar (((bits * 64 + second) * 64 + third) * 64 + last) := by
    unfold Nat.isValidChar
    split at hlow <;> split at hhigh <;> simp at hlow hhigh <;> omega
  refine ⟨rest, ?_, hmore⟩
  rw [← Option.some.inj hc, utf8EncodeChar_ofNat hcode.2, if_neg (by omega), if_neg (by omega),
    if_neg (by omega),
    show (((bits * 64 + second) * 64 + third) * 64 + last) / 262144 = bits by omega,
    show (((bits * 64 + second) * 64 + third) * 64 + last) / 4096 % 64 = second by omega,
    show (((bits * 64 + second) * 64 + third) * 64 + last) / 64 % 64 = third by omega,
    show (((bits * 64 + second) * 64 + third) * 64 + last) % 64 = last by omega]
  rfl

/-- The other octets are no first ones. -/
theorem lead_fault : ∀ n < 0x100, (0x80 ≤ n ∧ n < 0xC2) ∨ 0xF5 ≤ n →
    Reader.lead (UInt8.ofNat n) = ([none], .fresh) := by
  decide +kernel

/-- Octets that begin with a character when they are read begin with the octets of it. -/
theorem exists_of_readFrom_eq_cons (h : readFrom .fresh (b :: input) = some c :: more) :
    ∃ rest, b :: input = String.utf8EncodeChar c ++ rest ∧ readFrom .fresh rest = more := by
  have hb : UInt8.ofNat b.toNat = b := UInt8.ofNat_toNat
  have hlt : b.toNat < 0x100 := b.toNat_lt
  generalize b.toNat = n at hb hlt
  subst hb
  rw [readFrom_cons, Reader.step] at h
  rcases Nat.lt_or_ge n 0x80 with hone | hone
  · rw [lead_one n hone] at h
    obtain ⟨hc, hmore⟩ := List.cons.inj h
    rw [← Option.some.inj hc, utf8EncodeChar_ofNat (.inl (by omega)), if_pos hone]
    exact ⟨input, rfl, hmore⟩
  by_cases hfault : n < 0xC2 ∨ 0xF5 ≤ n
  · rw [lead_fault n hlt (hfault.imp_left fun h => ⟨hone, h⟩)] at h
    exact absurd (List.cons.inj h).1 (by simp)
  rcases Nat.lt_or_ge n 0xE0 with htwo | htwo
  · obtain ⟨bits, rfl⟩ := Nat.exists_eq_add_of_le' (show 0xC0 ≤ n by omega)
    rw [lead_two bits (by omega) (by omega)] at h
    exact exists_of_lead_two (by omega) (by omega) h
  rcases Nat.lt_or_ge n 0xF0 with hthree | hthree
  · obtain ⟨bits, rfl⟩ := Nat.exists_eq_add_of_le' htwo
    rw [lead_three bits (by omega)] at h
    exact exists_of_lead_three (by omega) h
  · obtain ⟨bits, rfl⟩ := Nat.exists_eq_add_of_le' hthree
    rw [lead_four bits (by omega)] at h
    exact exists_of_lead_four (by omega) h

/-! ### The octets of a text -/

/-- Every octet gives something, or is owed others. -/
theorem step_progress (reader : Reader) (b : UInt8) :
    (reader.step b).1 ≠ [] ∨ (reader.step b).2 ≠ .fresh := by
  cases reader with
  | fresh =>
    have hall : ∀ n < 256, (Reader.lead (UInt8.ofNat n)).1 ≠ []
        ∨ (Reader.lead (UInt8.ofNat n)).2 ≠ .fresh := by
      decide +kernel
    have hb := hall b.toNat b.toNat_lt
    rwa [UInt8.ofNat_toNat] at hb
  | inside owed low high value =>
    by_cases hin : (low ≤ b && b ≤ high) = true
    · cases owed with
      | zero => exact .inl (by simp [Reader.step, hin])
      | succ owed => exact .inr (by simp [Reader.step, hin])
    · cases owed <;> exact .inl (by simp [Reader.step, hin])

theorem readFrom_ne_nil {reader : Reader} (h : reader ≠ .fresh ∨ input ≠ []) :
    readFrom reader input ≠ [] := by
  induction input generalizing reader with
  | nil =>
    cases reader with
    | fresh => simp at h
    | inside owed low high value => simp [readFrom]
  | cons b rest ih =>
    rw [readFrom_cons]
    intro hnil
    obtain ⟨hdone, hrest⟩ := List.append_eq_nil_iff.mp hnil
    rcases step_progress reader b with hne | hnext
    · exact hne hdone
    · exact ih (.inl hnext) hrest

theorem read_eq_iff {octets : Bytes} {chars : List Char} :
    read octets = chars.map some ↔ octets = chars.flatMap String.utf8EncodeChar := by
  unfold read
  induction chars generalizing octets with
  | nil =>
    refine ⟨fun h => ?_, fun h => h ▸ rfl⟩
    exact Decidable.of_not_not fun hne => readFrom_ne_nil (.inr hne) h
  | cons c chars ih =>
    constructor
    · intro h
      cases octets with
      | nil => exact absurd h (by simp [readFrom])
      | cons b octets =>
        obtain ⟨rest, hoctets, hrest⟩ := exists_of_readFrom_eq_cons h
        rw [hoctets, ih.mp hrest, List.flatMap_cons]
    · rintro rfl
      rw [List.flatMap_cons, readFrom_utf8EncodeChar, ih.mpr rfl]
      rfl

theorem mapM_id_eq_some_iff {found : List (Option Char)} {chars : List Char} :
    found.mapM id = some chars ↔ found = chars.map some := by
  induction found generalizing chars with
  | nil => cases chars <;> simp
  | cons x found ih =>
    cases x with
    | none => cases chars <;> simp
    | some c => cases chars <;> simp [Option.bind_eq_some_iff, ih, and_left_comm]

/-- Octets are decoded without a fault if and only if they are those of the text. -/
theorem decode?_eq_some_iff {octets : Bytes} {text : String} :
    decode? octets = some text ↔ octets = encode text := by
  rw [decode?, Option.map_eq_some_iff, encode, ← read_eq_iff]
  constructor
  · rintro ⟨chars, hchars, rfl⟩
    rw [String.toList_ofList]
    exact mapM_id_eq_some_iff.mp hchars
  · intro h
    exact ⟨text.toList, mapM_id_eq_some_iff.mpr h, String.ofList_toList⟩

/-- Different texts have different octets. -/
theorem encode_injective : Function.Injective encode := fun text other h => by
  have hother : decode? (encode text) = some other := decode?_eq_some_iff.mpr h
  exact Option.some.inj ((decode?_eq_some_iff.mpr rfl).symm.trans hother)

end MarkupFeed.Utf8
