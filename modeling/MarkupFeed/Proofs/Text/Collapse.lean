import MarkupFeed.Proofs.Text.Blank

/-!
# Collapsing white space, character by character

`squeeze` makes one space of every run of white space and leaves out the run at the end. Where a
text does not start with white space, it is what the words of the text come to with one space
between them: `toList_collapse`. So the length of a run does not matter (`squeeze_replace`).
-/

namespace MarkupFeed.Text

/-- Puts a space in front of a text, unless it is empty or starts with white space. -/
def spaced : List Char → List Char
  | [] => []
  | c :: rest => if isBlank c then c :: rest else ' ' :: c :: rest

/-- Makes one space of each run of white space, and nothing of the last one. -/
def squeeze : List Char → List Char
  | [] => []
  | c :: rest => if isBlank c then spaced (squeeze rest) else c :: squeeze rest

variable {c : Char} {text : List Char}

theorem squeeze_cons_of_isBlank (h : isBlank c = true) (text : List Char) :
    squeeze (c :: text) = spaced (squeeze text) := by
  rw [squeeze, if_pos h]

theorem squeeze_cons_of_not_isBlank (h : isBlank c = false) (text : List Char) :
    squeeze (c :: text) = c :: squeeze text := by
  rw [squeeze, h]
  rfl

theorem spaced_cons_of_not_isBlank (h : isBlank c = false) (text : List Char) :
    spaced (c :: text) = ' ' :: c :: text := by
  rw [spaced, h]
  rfl

theorem spaced_eq (text : List Char) :
    spaced text = [] ∨ ∃ d more, spaced text = d :: more ∧ isBlank d = true := by
  cases text with
  | nil => exact .inl rfl
  | cons c rest =>
    cases hc : isBlank c with
    | true => exact .inr ⟨c, rest, by rw [spaced, if_pos hc], hc⟩
    | false => exact .inr ⟨' ', c :: rest, spaced_cons_of_not_isBlank hc rest, rfl⟩

theorem spaced_spaced (text : List Char) : spaced (spaced text) = spaced text := by
  rcases spaced_eq text with hnil | ⟨d, more, hcons, hblank⟩
  · rw [hnil]
    rfl
  · rw [hcons, spaced, if_pos hblank]

theorem dropWhile_spaced (text : List Char) :
    (spaced text).dropWhile isBlank = text.dropWhile isBlank := by
  cases text with
  | nil => rfl
  | cons c rest =>
    rw [spaced]
    split
    · rfl
    · exact List.dropWhile_cons_of_pos (by decide)

/-! ### Runs of white space -/

theorem squeeze_append_of_ne_nil {gap : List Char} (h : ∀ c ∈ gap, isBlank c = true)
    (hne : gap ≠ []) (text : List Char) : squeeze (gap ++ text) = spaced (squeeze text) := by
  induction gap with
  | nil => exact absurd rfl hne
  | cons c rest ih =>
    rw [List.forall_mem_cons] at h
    rw [List.cons_append, squeeze_cons_of_isBlank h.1]
    by_cases hrest : rest = []
    · rw [hrest]
      rfl
    · rw [ih h.2 hrest, spaced_spaced]

theorem squeeze_append_of_not_isBlank {front : List Char} (h : ∀ c ∈ front, isBlank c = false)
    (text : List Char) : squeeze (front ++ text) = front ++ squeeze text := by
  induction front with
  | nil => rfl
  | cons c rest ih =>
    rw [List.forall_mem_cons] at h
    rw [List.cons_append, squeeze_cons_of_not_isBlank h.1, ih h.2, List.cons_append]

theorem squeeze_append_congr (front : List Char) {text other : List Char}
    (h : squeeze text = squeeze other) : squeeze (front ++ text) = squeeze (front ++ other) := by
  induction front with
  | nil => exact h
  | cons c rest ih =>
    rw [List.cons_append, List.cons_append, squeeze, squeeze, ih]

/-- It does not matter how long a run of white space is. -/
theorem squeeze_replace {gap other : List Char} (hgap : ∀ c ∈ gap, isBlank c = true)
    (hother : ∀ c ∈ other, isBlank c = true) (hne : gap ≠ []) (hne' : other ≠ [])
    (front back : List Char) :
    squeeze (front ++ (gap ++ back)) = squeeze (front ++ (other ++ back)) := by
  apply squeeze_append_congr
  rw [squeeze_append_of_ne_nil hgap hne, squeeze_append_of_ne_nil hother hne']

/-- White space at the end does not matter at all. -/
theorem squeeze_append {back : List Char} (h : ∀ c ∈ back, isBlank c = true) (text : List Char) :
    squeeze (text ++ back) = squeeze text := by
  have hback : squeeze back = [] := by
    by_cases hne : back = []
    · rw [hne]
      rfl
    · have hspaced := squeeze_append_of_ne_nil h hne []
      rwa [List.append_nil] at hspaced
  have happend : squeeze (text ++ back) = squeeze (text ++ []) := squeeze_append_congr text hback
  rwa [List.append_nil] at happend

theorem dropWhile_squeeze (text : List Char) :
    (squeeze text).dropWhile isBlank = squeeze (text.dropWhile isBlank) := by
  induction text with
  | nil => rfl
  | cons c rest ih =>
    cases hc : isBlank c with
    | true =>
      rw [squeeze_cons_of_isBlank hc, dropWhile_spaced, ih, List.dropWhile_cons_of_pos hc]
    | false =>
      have hnot : ¬isBlank c = true := by simp [hc]
      rw [squeeze_cons_of_not_isBlank hc, List.dropWhile_cons_of_neg hnot,
        List.dropWhile_cons_of_neg hnot, squeeze_cons_of_not_isBlank hc]

theorem squeeze_spaced (text : List Char) : squeeze (spaced text) = spaced (squeeze text) := by
  cases text with
  | nil => rfl
  | cons c rest =>
    cases hc : isBlank c with
    | true => rw [spaced, if_pos hc, squeeze_cons_of_isBlank hc, spaced_spaced]
    | false =>
      rw [spaced_cons_of_not_isBlank hc, squeeze_cons_of_isBlank (by decide)]

theorem squeeze_squeeze (text : List Char) : squeeze (squeeze text) = squeeze text := by
  induction text with
  | nil => rfl
  | cons c rest ih =>
    cases hc : isBlank c with
    | true => rw [squeeze_cons_of_isBlank hc, squeeze_spaced, ih]
    | false => rw [squeeze_cons_of_not_isBlank hc, squeeze_cons_of_not_isBlank hc, ih]

theorem length_squeeze_le (text : List Char) : (squeeze text).length ≤ text.length := by
  induction text with
  | nil => exact Nat.le_refl _
  | cons c rest ih =>
    have hspaced (text : List Char) : (spaced text).length ≤ text.length + 1 := by
      unfold spaced
      split
      · exact Nat.zero_le _
      · split
        · exact Nat.le_succ _
        · exact Nat.le_refl _
    rw [squeeze]
    split
    · exact Nat.le_trans (hspaced _) (Nat.succ_le_succ ih)
    · exact Nat.succ_le_succ ih

/-- In a squeezed text, white space is one space with something behind it. -/
theorem of_squeeze_cons_eq_self (h : squeeze (c :: text) = c :: text) :
    squeeze text = text
      ∧ (isBlank c = true → c = ' ' ∧ ∃ d more, text = d :: more ∧ isBlank d = false) := by
  cases hc : isBlank c with
  | false =>
    rw [squeeze_cons_of_not_isBlank hc] at h
    exact ⟨(List.cons.inj h).2, fun hblank => absurd hblank (by simp)⟩
  | true =>
    rw [squeeze_cons_of_isBlank hc] at h
    cases hrest : squeeze text with
    | nil => exact absurd (hrest ▸ h) (by simp [spaced])
    | cons d more =>
      cases hd : isBlank d with
      | true =>
        -- squeezing would have made the text longer
        rw [hrest, spaced, if_pos hd, ← hrest] at h
        have hlength := h ▸ length_squeeze_le text
        exact absurd hlength (by simp)
      | false =>
        rw [hrest, spaced_cons_of_not_isBlank hd] at h
        obtain ⟨rfl, rfl⟩ := List.cons.inj h
        exact ⟨rfl, fun _ => ⟨rfl, d, more, rfl, hd⟩⟩

/-- What a text starts with after squeezing, it started with before. -/
theorem exists_of_squeeze_eq_cons {more : List Char} (h : squeeze text = c :: more)
    (hc : isBlank c = false) : ∃ rest, text = c :: rest ∧ squeeze rest = more := by
  cases text with
  | nil => exact absurd h (by simp [squeeze])
  | cons d rest =>
    cases hd : isBlank d with
    | true =>
      rw [squeeze_cons_of_isBlank hd] at h
      rcases spaced_eq (squeeze rest) with hnil | ⟨e, others, hcons, he⟩
      · exact absurd (hnil.symm.trans h) (by simp)
      · obtain ⟨rfl, -⟩ := List.cons.inj (hcons.symm.trans h)
        exact absurd he (by simp [hc])
    | false =>
      rw [squeeze_cons_of_not_isBlank hd] at h
      obtain ⟨rfl, rfl⟩ := List.cons.inj h
      exact ⟨rest, rfl, rfl⟩

/-- Characters may be changed before or after, as long as white space and nothing else stays white
space. -/
theorem squeeze_map {f : Char → Char} (h : ∀ c, isBlank (f c) = isBlank c) (hspace : f ' ' = ' ')
    (text : List Char) : squeeze (text.map f) = (squeeze text).map f := by
  have hspaced (text : List Char) : spaced (text.map f) = (spaced text).map f := by
    cases text with
    | nil => rfl
    | cons c rest =>
      rw [List.map_cons, spaced, spaced, h]
      split
      · rfl
      · rw [List.map_cons, hspace, List.map_cons]
  induction text with
  | nil => rfl
  | cons c rest ih =>
    rw [List.map_cons, squeeze, squeeze, h, ih, hspaced]
    split
    · rfl
    · rfl

/-! ### Words -/

theorem append_spaced_joinChars {words : List (List Char)}
    (h : ∀ word ∈ words, word ≠ [] ∧ ∀ c ∈ word, isBlank c = false) (part : List Char) :
    part ++ spaced (joinChars [' '] words) = joinChars [' '] (part :: words) := by
  cases words with
  | nil => exact List.append_nil part
  | cons word rest =>
    -- the words start with the first character of the first
    have hne : joinChars [' '] (word :: rest) ≠ [] :=
      joinChars_ne_nil (h word List.mem_cons_self).1 rest
    have hhead : ∀ c ∈ (joinChars [' '] (word :: rest)).head?, isBlank c = false :=
      (isTrimmed_joinChars h).head
    obtain ⟨c, more, hjoined⟩ := List.exists_cons_of_ne_nil hne
    rw [hjoined] at hhead
    rw [joinChars_cons (List.cons_ne_nil word rest), hjoined,
      spaced_cons_of_not_isBlank (hhead c rfl), List.append_assoc]
    rfl

/-- The words of the parts behind the first one. -/
theorem isWord_of_splitChars {first : List Char} {others : List (List Char)}
    (h : splitChars isBlank text = first :: others) :
    ∀ word ∈ others.filter (!·.isEmpty), word ≠ [] ∧ ∀ c ∈ word, isBlank c = false := by
  intro word hword
  have hmem : word ∈ wordsOf text := by
    rw [wordsOf, h]
    exact (List.Sublist.filter _ (List.sublist_cons_self _ _)).subset hword
  exact isWord_of_mem_wordsOf hmem

theorem squeeze_eq_of_splitChars {first : List Char} {others : List (List Char)}
    (h : splitChars isBlank text = first :: others) :
    squeeze text = first ++ spaced (joinChars [' '] (others.filter (!·.isEmpty))) := by
  induction text generalizing first others with
  | nil =>
    obtain ⟨rfl, rfl⟩ := List.cons.inj h
    rfl
  | cons c rest ih =>
    obtain ⟨part, parts, hrest⟩ := List.exists_cons_of_ne_nil (splitChars_ne_nil isBlank rest)
    cases hc : isBlank c with
    | true =>
      rw [splitChars, if_pos hc, hrest] at h
      obtain ⟨rfl, rfl⟩ := List.cons.inj h
      rw [squeeze_cons_of_isBlank hc, ih hrest, List.nil_append]
      by_cases hpart : part = []
      · rw [hpart, List.nil_append, spaced_spaced, List.filter_cons_of_neg (by simp)]
      · rw [append_spaced_joinChars (isWord_of_splitChars hrest),
          List.filter_cons_of_pos (by simpa using hpart)]
    | false =>
      rw [splitChars_cons hc hrest] at h
      obtain ⟨rfl, rfl⟩ := List.cons.inj h
      rw [squeeze_cons_of_not_isBlank hc, ih hrest, List.cons_append]

/-- With one space between its words, a text is squeezed, without what it starts with if that is
white space. -/
theorem toList_collapse (text : String) :
    (collapse text).toList = squeeze (text.toList.dropWhile isBlank) := by
  have htrimmed := isTrimmed_collapse text
  rw [collapse, joinWords, String.toList_ofList, wordsOf] at htrimmed ⊢
  obtain ⟨first, others, hsplit⟩ :=
    List.exists_cons_of_ne_nil (splitChars_ne_nil isBlank text.toList)
  rw [← dropWhile_squeeze, squeeze_eq_of_splitChars hsplit]
  rw [hsplit] at htrimmed ⊢
  by_cases hfirst : first = []
  · subst hfirst
    rw [List.filter_cons_of_neg (by simp)] at htrimmed ⊢
    rw [List.nil_append, dropWhile_spaced, dropWhile_eq_self htrimmed.head]
  · rw [List.filter_cons_of_pos (by simpa using hfirst)] at htrimmed ⊢
    rw [append_spaced_joinChars (isWord_of_splitChars hsplit), dropWhile_eq_self htrimmed.head]

end MarkupFeed.Text
