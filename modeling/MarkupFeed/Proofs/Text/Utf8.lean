import MarkupFeed.Proofs.Text.Blank
import MarkupFeed.Text.Utf8

/-!
# UTF-8, there and back

Octets of texts and back.

* `decodeLossy_encode`: a text is read back from its octets.
* `mem_of_mem_encode` and `mem_of_mem_decodeChars`: octets below 0x80 and the characters with their
  codes come from one another, whatever faults the octets have. So lines are octets without line
  ends (`isLine_encode`, `isLine_decodeChars`).
-/

namespace MarkupFeed

/-- Octets without line ends. -/
def Bytes.IsLine (octets : Bytes) : Prop :=
  ∀ b ∈ octets, b ≠ Octet.lineFeed ∧ b ≠ Octet.carriageReturn

instance (octets : Bytes) : Decidable octets.IsLine :=
  List.decidableBAll (fun b => b ≠ Octet.lineFeed ∧ b ≠ Octet.carriageReturn) octets

/-- The octets of a text that is given by its characters, as literals are to the kernel. With this
it need not encode a text and take the characters out of it again. -/
theorem Bytes.ascii_ofList (chars : List Char) :
    ascii (String.ofList chars) = chars.map Char.toUInt8 := by
  rw [ascii, String.toList_ofList]

theorem Bytes.ascii_append (a b : String) : ascii (a ++ b) = ascii a ++ ascii b := by
  rw [ascii, ascii, ascii, String.toList_append, List.map_append]

theorem Bytes.isLine_nil : IsLine [] := List.forall_mem_nil _

theorem Bytes.isLine_append {octets more : Bytes} :
    IsLine (octets ++ more) ↔ octets.IsLine ∧ more.IsLine :=
  List.forall_mem_append

namespace Utf8

/-! ### Reading what was written -/

theorem encode_append (text more : String) :
    encode (text ++ more) = encode text ++ encode more := by
  rw [encode, String.toList_append, List.flatMap_append]
  rfl

/-- The octets of a line with its end. -/
theorem encode_line (text : String) : encode (text ++ "\n") = encode text ++ [Octet.lineFeed] :=
  encode_append text "\n"

theorem readFrom_cons (reader : Reader) (b : UInt8) (rest : Bytes) :
    readFrom reader (b :: rest) = (reader.step b).1 ++ readFrom (reader.step b).2 rest := by
  cases reader <;> rfl

/-- A trail octet, by the six bits it carries. -/
def trail (bits : Nat) : UInt8 := UInt8.ofNat (bits + 0x80)

theorem toNat_trail {bits : Nat} (h : bits < 64) : (trail bits).toNat = bits + 0x80 := by
  rw [trail, UInt8.toNat_ofNat']
  omega

variable {low high : UInt8} {value bits : Nat}

/-- A trail octet completes a character. -/
theorem readFrom_last (h : bits < 64) (hlow : low.toNat ≤ bits + 0x80)
    (hhigh : bits + 0x80 ≤ high.toNat) (rest : Bytes) :
    readFrom (.inside 0 low high value) (trail bits :: rest)
      = some (Char.ofNat (value * 64 + bits)) :: readFrom .fresh rest := by
  have hb := toNat_trail h
  have hin : (low ≤ trail bits && trail bits ≤ high) = true := by
    simpa [UInt8.le_iff_toNat_le, hb] using ⟨hlow, hhigh⟩
  rw [readFrom_cons, Reader.step, if_pos hin, hb, show (bits + 0x80) % 64 = bits by omega]
  rfl

/-- A trail octet leaves one trail octet less to be read. -/
theorem readFrom_trail (owed : Nat) (h : bits < 64) (hlow : low.toNat ≤ bits + 0x80)
    (hhigh : bits + 0x80 ≤ high.toNat) (rest : Bytes) :
    readFrom (.inside (owed + 1) low high value) (trail bits :: rest)
      = readFrom (.inside owed 0x80 0xBF (value * 64 + bits)) rest := by
  have hb := toNat_trail h
  have hin : (low ≤ trail bits && trail bits ≤ high) = true := by
    simpa [UInt8.le_iff_toNat_le, hb] using ⟨hlow, hhigh⟩
  rw [readFrom_cons, Reader.step, if_pos hin, hb, show (bits + 0x80) % 64 = bits by omega]
  rfl

theorem lead_one : ∀ code < 0x80,
    Reader.lead (UInt8.ofNat code) = ([some (Char.ofNat code)], .fresh) := by
  decide

theorem lead_two : ∀ bits < 0x20, 2 ≤ bits →
    Reader.lead (UInt8.ofNat (bits + 0xC0)) = ([], .inside 0 0x80 0xBF bits) := by
  decide

theorem lead_three : ∀ bits < 0x10, Reader.lead (UInt8.ofNat (bits + 0xE0))
    = ([], .inside 1 (if bits = 0 then 0xA0 else 0x80) (if bits = 13 then 0x9F else 0xBF)
        bits) := by
  decide

theorem lead_four : ∀ bits < 5, Reader.lead (UInt8.ofNat (bits + 0xF0))
    = ([], .inside 2 (if bits = 0 then 0x90 else 0x80) (if bits = 4 then 0x8F else 0xBF) bits) := by
  decide

/-- A bound that depends on the octet in front. -/
theorem toNat_ite_le {c : Prop} [Decidable c] {a b : UInt8} {n : Nat} (ha : c → a.toNat ≤ n)
    (hb : ¬c → b.toNat ≤ n) : (if c then a else b).toNat ≤ n := by
  split
  · next hc => exact ha hc
  · next hc => exact hb hc

theorem le_toNat_ite {c : Prop} [Decidable c] {a b : UInt8} {n : Nat} (ha : c → n ≤ a.toNat)
    (hb : ¬c → n ≤ b.toNat) : n ≤ (if c then a else b).toNat := by
  split
  · next hc => exact ha hc
  · next hc => exact hb hc

/-- A character is read back from its octets. -/
theorem readFrom_utf8EncodeChar (c : Char) (rest : Bytes) :
    readFrom .fresh (String.utf8EncodeChar c ++ rest) = some c :: readFrom .fresh rest := by
  have hchar : Char.ofNat c.val.toNat = c := Char.ofNat_toNat c
  have hvalid : c.val.toNat < 0xD800 ∨ 0xDFFF < c.val.toNat ∧ c.val.toNat < 0x110000 := c.valid
  rw [String.utf8EncodeChar]
  generalize c.val.toNat = v at hchar hvalid
  -- the bounds of a trail octet that may be any
  have hlow (bits : Nat) : (0x80 : UInt8).toNat ≤ bits + 0x80 := Nat.le_add_left _ _
  have hhigh {bits : Nat} (h : bits < 64) : bits + 0x80 ≤ (0xBF : UInt8).toNat := by
    show _ ≤ 0xBF
    omega
  split
  · next h =>
    rw [List.cons_append, readFrom_cons, Reader.step, lead_one v (by omega), hchar]
    rfl
  split
  · next hone h =>
    have hvalue : v / 64 % 0x20 * 64 + v % 64 = v := by omega
    show readFrom .fresh (UInt8.ofNat (v / 64 % 0x20 + 0xC0) :: trail (v % 64) :: rest) = _
    rw [readFrom_cons, Reader.step, lead_two _ (by omega) (by omega), List.nil_append,
      readFrom_last (by omega) (hlow _) (hhigh (by omega)), hvalue, hchar]
  split
  · next hone htwo h =>
    have hvalue : (v / 4096 % 0x10 * 64 + v / 64 % 64) * 64 + v % 64 = v := by omega
    show readFrom .fresh (UInt8.ofNat (v / 4096 % 0x10 + 0xE0) :: trail (v / 64 % 64)
      :: trail (v % 64) :: rest) = _
    -- the second octet rules out what two octets can carry, and the surrogates
    have hsecond : (if v / 4096 % 0x10 = 0 then 0xA0 else 0x80 : UInt8).toNat
        ≤ v / 64 % 64 + 0x80 :=
      toNat_ite_le (fun hlead => show 0xA0 ≤ _ by omega) fun _ => hlow _
    have hsecond' : v / 64 % 64 + 0x80
        ≤ (if v / 4096 % 0x10 = 13 then 0x9F else 0xBF : UInt8).toNat :=
      le_toNat_ite (fun hlead => show _ ≤ 0x9F by omega) fun _ => hhigh (by omega)
    rw [readFrom_cons, Reader.step, lead_three _ (by omega), List.nil_append,
      readFrom_trail 0 (by omega) hsecond hsecond',
      readFrom_last (by omega) (hlow _) (hhigh (by omega)), hvalue, hchar]
  · next hone htwo hthree =>
    have hvalue : ((v / 262144 % 8 * 64 + v / 4096 % 64) * 64 + v / 64 % 64) * 64 + v % 64 = v := by
      omega
    show readFrom .fresh (UInt8.ofNat (v / 262144 % 8 + 0xF0) :: trail (v / 4096 % 64)
      :: trail (v / 64 % 64) :: trail (v % 64) :: rest) = _
    -- the second octet rules out what three octets can carry, and what no character has
    have hsecond : (if v / 262144 % 8 = 0 then 0x90 else 0x80 : UInt8).toNat
        ≤ v / 4096 % 64 + 0x80 :=
      toNat_ite_le (fun hlead => show 0x90 ≤ _ by omega) fun _ => hlow _
    have hsecond' : v / 4096 % 64 + 0x80
        ≤ (if v / 262144 % 8 = 4 then 0x8F else 0xBF : UInt8).toNat :=
      le_toNat_ite (fun hlead => show _ ≤ 0x8F by omega) fun _ => hhigh (by omega)
    rw [readFrom_cons, Reader.step, lead_four _ (by omega), List.nil_append,
      readFrom_trail 1 (by omega) hsecond hsecond',
      readFrom_trail 0 (by omega) (hlow _) (hhigh (by omega)),
      readFrom_last (by omega) (hlow _) (hhigh (by omega)), hvalue, hchar]

/-- A text in front of other octets is read back. -/
theorem decodeChars_encode_append (text : String) (rest : Bytes) :
    decodeChars (encode text ++ rest) = text.toList ++ decodeChars rest := by
  unfold decodeChars read encode
  induction text.toList with
  | nil => rfl
  | cons c more ih =>
    rw [List.flatMap_cons, List.append_assoc, readFrom_utf8EncodeChar, List.map_cons, ih]
    rfl

theorem decodeChars_encode (text : String) : decodeChars (encode text) = text.toList := by
  have hempty : decodeChars [] = [] := rfl
  have h := decodeChars_encode_append text []
  rwa [List.append_nil, hempty, List.append_nil] at h

/-- A text is read back from its octets. -/
theorem decodeLossy_encode (text : String) : decodeLossy (encode text) = text := by
  rw [decodeLossy, decodeChars_encode, String.ofList_toList]

/-! ### Octets below 0x80 -/

theorem eq_of_mem_utf8EncodeChar {c : Char} {b : UInt8} (h : b ∈ String.utf8EncodeChar c)
    (hb : b.toNat < 0x80) : c.toNat = b.toNat := by
  have hlarge : ∀ n, 0x80 ≤ n → n < 0x100 → b ≠ UInt8.ofNat n := by
    rintro n hlow hhigh rfl
    rw [UInt8.toNat_ofNat'] at hb
    omega
  rw [String.utf8EncodeChar] at h
  show c.val.toNat = b.toNat
  generalize c.val.toNat = v at h
  split at h
  · rw [List.mem_singleton] at h
    rw [h, UInt8.toNat_ofNat']
    omega
  -- longer characters have no such octet: not the first one, and no trail octet
  · exfalso
    split at h
    · simp only [List.mem_cons, List.not_mem_nil, or_false] at h
      rcases h with h | h <;> exact hlarge _ (by omega) (by omega) h
    split at h
    · simp only [List.mem_cons, List.not_mem_nil, or_false] at h
      rcases h with h | h | h <;> exact hlarge _ (by omega) (by omega) h
    · simp only [List.mem_cons, List.not_mem_nil, or_false] at h
      rcases h with h | h | h | h <;> exact hlarge _ (by omega) (by omega) h

theorem mem_of_mem_encode {text : String} {b : UInt8} (h : b ∈ encode text)
    (hb : b.toNat < 0x80) : Char.ofNat b.toNat ∈ text.toList := by
  rw [encode, List.mem_flatMap] at h
  obtain ⟨c, hc, hmem⟩ := h
  rwa [← eq_of_mem_utf8EncodeChar hmem hb, Char.ofNat_toNat]

/-- The octets read so far are enough for the character to have a code from 0x80 on: the bits they
carry, or those and the least the next octet may carry. -/
def Reader.IsLong : Reader → Prop
  | .fresh => True
  | .inside owed low high value =>
    0x80 ≤ low.toNat ∧ high.toNat ≤ 0xBF
      ∧ 2 ≤ if owed = 0 then value else value * 64 + (low.toNat - 0x80)

instance (reader : Reader) : Decidable reader.IsLong := by
  cases reader <;> unfold Reader.IsLong <;> infer_instance

/-- What an octet gives is a fault, the character with its code, or one from 0x80 on. (A code that
no character has counts as zero.) -/
def Explains (b : UInt8) : Option Char → Prop
  | none => True
  | some c => c.toNat = b.toNat ∨ c.toNat = 0 ∨ 0x80 ≤ c.toNat

instance (b : UInt8) (x : Option Char) : Decidable (Explains b x) := by
  cases x <;> unfold Explains <;> infer_instance

theorem lead_spec (b : UInt8) :
    (Reader.lead b).2.IsLong ∧ ∀ x ∈ (Reader.lead b).1, Explains b x := by
  have hall : ∀ n < 256, (Reader.lead (UInt8.ofNat n)).2.IsLong
      ∧ ∀ x ∈ (Reader.lead (UInt8.ofNat n)).1, Explains (UInt8.ofNat n) x := by
    decide +kernel
  have hb := hall b.toNat b.toNat_lt
  rwa [UInt8.ofNat_toNat] at hb

theorem toNat_ofNat_of_le {code : Nat} (h : 0x80 ≤ code) :
    (Char.ofNat code).toNat = 0 ∨ 0x80 ≤ (Char.ofNat code).toNat := by
  by_cases hvalid : code.isValidChar
  · rw [Char.ofNat, dif_pos hvalid]
    exact .inr h
  · rw [Char.ofNat, dif_neg hvalid]
    exact .inl rfl

theorem step_spec {reader : Reader} (h : reader.IsLong) (b : UInt8) :
    (reader.step b).2.IsLong ∧ ∀ x ∈ (reader.step b).1, Explains b x := by
  cases reader with
  | fresh => exact lead_spec b
  | inside owed low high value =>
    obtain ⟨hlow, hhigh, hbits⟩ := h
    by_cases hin : (low ≤ b && b ≤ high) = true
    · have hwithin := hin
      rw [Bool.and_eq_true, decide_eq_true_eq, decide_eq_true_eq, UInt8.le_iff_toNat_le,
        UInt8.le_iff_toNat_le] at hwithin
      cases owed with
      | zero =>
        rw [if_pos rfl] at hbits
        rw [Reader.step, if_pos hin]
        refine ⟨trivial, ?_⟩
        intro x hx
        have hcode : 0x80 ≤ value * 64 + b.toNat % 64 := by omega
        rw [List.mem_singleton.mp hx]
        exact .inr (toNat_ofNat_of_le hcode)
      | succ owed =>
        rw [if_neg (Nat.succ_ne_zero owed)] at hbits
        rw [Reader.step, if_pos hin]
        -- after the second octet any trail octet may follow
        refine ⟨⟨Nat.le_refl _, Nat.le_refl _, ?_⟩, List.forall_mem_nil _⟩
        show 2 ≤ if owed = 0 then value * 64 + b.toNat % 64
          else (value * 64 + b.toNat % 64) * 64 + (0x80 - 0x80)
        split <;> omega
    · -- the octet starts afresh, after a fault
      have hstep : (Reader.inside owed low high value).step b
          = (none :: (Reader.lead b).1, (Reader.lead b).2) := by
        cases owed <;> rw [Reader.step, if_neg hin]
      obtain ⟨hlong, hgives⟩ := lead_spec b
      rw [hstep]
      refine ⟨hlong, ?_⟩
      intro x hx
      rcases List.mem_cons.mp hx with rfl | hx
      · trivial
      · exact hgives x hx

theorem mem_of_mem_readFrom {reader : Reader} (h : reader.IsLong) {input : Bytes} {c : Char}
    (hc : some c ∈ readFrom reader input) :
    c.toNat = 0 ∨ 0x80 ≤ c.toNat ∨ ∃ b ∈ input, c.toNat = b.toNat := by
  induction input generalizing reader with
  | nil => cases reader <;> simp [readFrom] at hc
  | cons b rest ih =>
    obtain ⟨hlong, hgives⟩ := step_spec h b
    rw [readFrom_cons, List.mem_append] at hc
    rcases hc with hc | hc
    · rcases hgives _ hc with hcode | hcode | hcode
      · exact .inr (.inr ⟨b, List.mem_cons_self, hcode⟩)
      · exact .inl hcode
      · exact .inr (.inl hcode)
    · refine (ih hlong hc).imp_right (.imp_right ?_)
      rintro ⟨other, hother, hcode⟩
      exact ⟨other, List.mem_cons_of_mem _ hother, hcode⟩

/-- Characters from 1 to 0x7F come from their own octets, whatever faults are among them. -/
theorem mem_of_mem_decodeChars {input : Bytes} {c : Char} (h : c ∈ decodeChars input)
    (hpos : 0 < c.toNat) (hc : c.toNat < 0x80) : ∃ b ∈ input, c.toNat = b.toNat := by
  rw [decodeChars, List.mem_map] at h
  obtain ⟨x, hx, rfl⟩ := h
  cases x with
  | none => exact absurd hc (by decide)
  | some c =>
    have fresh : Reader.IsLong .fresh := trivial
    rcases mem_of_mem_readFrom fresh hx with hcode | hcode | hcode
    · exact absurd hcode (Nat.ne_of_gt hpos)
    · exact absurd hc (Nat.not_lt.mpr hcode)
    · exact hcode

/-! ### Lines -/

theorem isLine_encode {text : String} (h : Text.IsLine text.toList) :
    Bytes.IsLine (encode text) := by
  intro b hb
  constructor
  · rintro rfl
    exact (h _ (mem_of_mem_encode hb (by decide))).1 rfl
  · rintro rfl
    exact (h _ (mem_of_mem_encode hb (by decide))).2 rfl

theorem isLine_decodeChars {input : Bytes} (h : input.IsLine) :
    Text.IsLine (decodeChars input) := by
  intro c hc
  constructor
  · rintro rfl
    obtain ⟨b, hb, hcode⟩ := mem_of_mem_decodeChars hc (by decide) (by decide)
    exact (h b hb).1 (UInt8.toNat_inj.mp hcode.symm)
  · rintro rfl
    obtain ⟨b, hb, hcode⟩ := mem_of_mem_decodeChars hc (by decide) (by decide)
    exact (h b hb).2 (UInt8.toNat_inj.mp hcode.symm)

theorem isLine_decodeLossy {input : Bytes} (h : input.IsLine) :
    Text.IsLine (decodeLossy input).toList := by
  rw [decodeLossy, String.toList_ofList]
  exact isLine_decodeChars h

end Utf8

end MarkupFeed
