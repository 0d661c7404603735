import MarkupFeed.Post.Thread
import MarkupFeed.Proofs.Text.LowerCase

/-!
# What the key of a thread does not depend on

A mark is a word, perhaps a number in brackets, and a colon (`IsMark`); removing one is taking it
away (`dropMark?_append`, `exists_of_dropMark?`). A relation of texts that goes through marks,
character by character (`Mirrors`), goes through their removal: `Mirrors.dropMark?`. Two relations
do so: being the same but for case and the length of white space (`Alike`), and being in small
letters. By the first, subjects that differ in nothing else have one key; by the second, small
letters show no mark that was not there before. Main statement: `key_canonical`.
-/

namespace MarkupFeed.Thread

open Text

/-! ### Marks -/

/-- White space, or nothing. -/
abbrev IsGap (text : List Char) : Prop := ∀ c ∈ text, isBlank c = true

/-- A number in brackets, or nothing. -/
def IsCount (text : List Char) : Prop :=
  text = [] ∨ ∃ digits, digits ≠ [] ∧ (∀ c ∈ digits, isDecimalDigit c = true)
    ∧ text = '[' :: (digits ++ [']'])

/-- A mark of a reply or a forwarded message. -/
def IsMark (text : List Char) : Prop :=
  ∃ word count gap behind, word.map Char.toLower ∈ markWords ∧ IsCount count ∧ IsGap gap
    ∧ IsGap behind ∧ text = word ++ (count ++ (gap ++ ':' :: behind))

variable {text rest : List Char}

theorem IsGap.dropWhile_append {gap : List Char} (h : IsGap gap) (text : List Char) :
    (gap ++ text).dropWhile isBlank = text.dropWhile isBlank :=
  List.dropWhile_append_of_pos h

theorem dropWhile_dropWhile (text : List Char) :
    (text.dropWhile isBlank).dropWhile isBlank = text.dropWhile isBlank :=
  dropWhile_eq_self fun _ => not_of_mem_head?_dropWhile

theorem isGap_takeWhile (text : List Char) : IsGap (text.takeWhile isBlank) :=
  List.all_eq_true.mp List.all_takeWhile

/-! ### Removing a mark -/

/-- A word is found as it stands, since what follows does not make a longer one of it. -/
theorem findSome?_dropWord?_append {word : List Char} (hword : word.map Char.toLower ∈ markWords)
    (hrest : ∀ c ∈ rest.head?, c.toLower ≠ 'd') :
    markWords.findSome? (dropWord? · (word ++ rest)) = some rest := by
  simp only [markWords, List.mem_cons, List.not_mem_nil, or_false, List.map_eq_cons_iff,
    List.map_eq_nil_iff] at hword
  obtain ⟨a, _, rfl, ha, b, _, rfl, hb, c, _, rfl, hc, rfl⟩ | ⟨a, _, rfl, ha, b, _, rfl, hb, rfl⟩
    | ⟨a, _, rfl, ha, b, _, rfl, hb, rfl⟩ | ⟨a, _, rfl, ha, b, _, rfl, hb, rfl⟩ := hword
  · simp [markWords, dropWord?, ha, hb, hc]
  · simp [markWords, dropWord?, ha, hb]
  · cases rest with
    | nil => simp [markWords, dropWord?, ha, hb]
    | cons c more =>
      have hc : c.toLower ≠ 'd' := hrest c rfl
      simp [markWords, dropWord?, ha, hb, hc]
  · simp [markWords, dropWord?, ha, hb]

theorem exists_of_findSome?_dropWord?
    (h : markWords.findSome? (dropWord? · text) = some rest) :
    ∃ word, word.map Char.toLower ∈ markWords ∧ text = word ++ rest := by
  obtain ⟨small, hmem, hdrop⟩ := List.exists_of_findSome?_eq_some h
  rw [dropWord?] at hdrop
  split at hdrop
  · next hsmall =>
    obtain rfl := Option.some.inj hdrop
    refine ⟨text.take small.length, ?_, (List.take_append_drop _ _).symm⟩
    rwa [hsmall]
  · exact absurd hdrop (by simp)

theorem dropCount_append {count : List Char} (h : IsCount count)
    (hrest : ∀ c ∈ rest.head?, c ≠ '[') : dropCount (count ++ rest) = rest := by
  rcases h with rfl | ⟨digits, hne, hdigits, rfl⟩
  · rw [List.nil_append, dropCount.eq_def]
    split
    · exact absurd rfl (hrest '[' rfl)
    · rfl
  · have hnot : ¬isDecimalDigit ']' = true := by decide
    have htake : (digits ++ ']' :: rest).takeWhile isDecimalDigit = digits := by
      rw [List.takeWhile_append_of_pos hdigits, List.takeWhile_cons_of_neg hnot, List.append_nil]
    have hdrop : (digits ++ ']' :: rest).dropWhile isDecimalDigit = ']' :: rest := by
      rw [List.dropWhile_append_of_pos hdigits, List.dropWhile_cons_of_neg hnot]
    obtain ⟨digit, others, rfl⟩ := List.exists_cons_of_ne_nil hne
    rw [List.cons_append, List.append_assoc]
    simp only [dropCount, List.singleton_append, htake, hdrop]

theorem exists_count (text : List Char) :
    ∃ count, IsCount count ∧ text = count ++ dropCount text := by
  unfold dropCount
  split
  · next rest =>
    split
    · next digit others after htake hdrop =>
      refine ⟨'[' :: (digit :: others ++ [']']),
        .inr ⟨digit :: others, List.cons_ne_nil _ _, ?_, rfl⟩, ?_⟩
      · rw [← htake]
        exact List.all_eq_true.mp List.all_takeWhile
      · have hsplit := List.takeWhile_append_dropWhile (p := isDecimalDigit) (l := rest)
        rw [htake, hdrop] at hsplit
        simp [← hsplit]
    · exact ⟨[], .inl rfl, rfl⟩
  · exact ⟨[], .inl rfl, rfl⟩

theorem dropColon?_append {gap : List Char} (hgap : IsGap gap) (rest : List Char) :
    dropColon? (gap ++ ':' :: rest) = some (rest.dropWhile isBlank) := by
  rw [dropColon?, hgap.dropWhile_append]
  rfl

theorem exists_of_dropColon? (h : dropColon? text = some rest) :
    ∃ gap after, IsGap gap ∧ text = gap ++ ':' :: after ∧ rest = after.dropWhile isBlank := by
  rw [dropColon?] at h
  split at h
  · next after hdrop =>
    refine ⟨text.takeWhile isBlank, after, isGap_takeWhile text, ?_, (Option.some.inj h).symm⟩
    rw [← hdrop, List.takeWhile_append_dropWhile]
  · exact absurd h (by simp)

/-- A mark in front is removed, with the white space behind it. -/
theorem dropMark?_append {mark : List Char} (h : IsMark mark) (rest : List Char) :
    dropMark? (mark ++ rest) = some (rest.dropWhile isBlank) := by
  obtain ⟨word, count, gap, behind, hword, hcount, hgap, hbehind, rfl⟩ := h
  -- what follows the word is a bracket, white space or a colon
  have hcolon : ∀ c ∈ (gap ++ ':' :: (behind ++ rest)).head?, c ≠ '[' ∧ c.toLower ≠ 'd' := by
    cases gap with
    | nil =>
      rintro c ⟨⟩
      decide
    | cons blank more =>
      rintro c ⟨⟩
      have hblank : isBlank blank = true := hgap blank List.mem_cons_self
      constructor
      · rintro rfl
        exact absurd hblank (by decide)
      · intro hd
        rw [← isBlank_toLower, hd] at hblank
        exact absurd hblank (by decide)
  have hafter : ∀ c ∈ (count ++ (gap ++ ':' :: (behind ++ rest))).head?, c.toLower ≠ 'd' := by
    rcases hcount with rfl | ⟨digits, -, -, rfl⟩
    · exact fun c hc => (hcolon c hc).2
    · rintro c ⟨⟩
      decide
  simp only [List.append_assoc, List.cons_append]
  rw [dropMark?, findSome?_dropWord?_append hword hafter, Option.bind_some,
    dropCount_append hcount fun c hc => (hcolon c hc).1, dropColon?_append hgap,
    hbehind.dropWhile_append]

theorem exists_of_dropMark? (h : dropMark? text = some rest) :
    ∃ word count gap after, word.map Char.toLower ∈ markWords ∧ IsCount count ∧ IsGap gap
      ∧ text = word ++ (count ++ (gap ++ ':' :: after)) ∧ rest = after.dropWhile isBlank := by
  obtain ⟨behind, hfound, hcolon⟩ := Option.bind_eq_some_iff.mp h
  obtain ⟨word, hword, rfl⟩ := exists_of_findSome?_dropWord? hfound
  obtain ⟨count, hcount, hbehind⟩ := exists_count behind
  obtain ⟨gap, after, hgap, hafter, hrest⟩ := exists_of_dropColon? hcolon
  exact ⟨word, count, gap, after, hword, hcount, hgap, by rw [hbehind, hafter], hrest⟩

theorem dropMarks_of_dropMark?_eq_some (h : dropMark? text = some rest) :
    dropMarks text = dropMarks rest := by
  rw [dropMarks.eq_def]
  split
  · next other hother => rw [Option.some.inj (h.symm.trans hother)]
  · next hnone => exact absurd (h.symm.trans hnone) (by simp)

theorem dropMarks_of_dropMark?_eq_none (h : dropMark? text = none) : dropMarks text = text := by
  rw [dropMarks.eq_def]
  split
  · next other hother => exact absurd (h.symm.trans hother) (by simp)
  · rfl

/-- All marks in front are removed. -/
theorem exists_marks (text : List Char) :
    ∃ marks : List (List Char), (∀ mark ∈ marks, IsMark mark)
      ∧ text = marks.flatten ++ dropMarks text := by
  induction text using dropMarks.induct with
  | case1 text rest hsome ih =>
    obtain ⟨marks, hmarks, hrest⟩ := ih
    obtain ⟨word, count, gap, after, hword, hcount, hgap, rfl, rfl⟩ := exists_of_dropMark? hsome
    have hmark : IsMark (word ++ (count ++ (gap ++ ':' :: after.takeWhile isBlank))) :=
      ⟨word, count, gap, _, hword, hcount, hgap, isGap_takeWhile after, rfl⟩
    refine ⟨_ :: marks, List.forall_mem_cons.mpr ⟨hmark, hmarks⟩, ?_⟩
    rw [dropMarks_of_dropMark?_eq_some hsome, List.flatten_cons, List.append_assoc, ← hrest]
    simp only [List.append_assoc, List.cons_append, List.takeWhile_append_dropWhile]
  | case2 text hnone =>
    exact ⟨[], List.forall_mem_nil _, (dropMarks_of_dropMark?_eq_none hnone).symm⟩

/-- A mark in front of a subject does not change its topic. -/
theorem topic_append {mark : List Char} (h : IsMark mark) (subject : List Char) :
    topic (mark ++ subject) = topic subject := by
  have hdrop : (mark ++ subject).dropWhile isBlank = mark ++ subject := by
    obtain ⟨word, count, gap, behind, hword, -, -, -, rfl⟩ := h
    have hletters : ∀ small ∈ markWords, small.all (!isBlank ·) = true := by decide
    have hnot : ∀ c ∈ word, isBlank c = false := by
      intro c hc
      have hsmall := List.all_eq_true.mp (hletters _ hword) _ (List.mem_map_of_mem hc)
      simpa [isBlank_toLower] using hsmall
    cases word with
    | nil => exact absurd hword (by decide)
    | cons c others =>
      exact List.dropWhile_cons_of_neg (by simp [hnot c List.mem_cons_self])
  rw [topic, hdrop, dropMarks_of_dropMark?_eq_some (dropMark?_append h subject), topic]

/-- No mark and no white space is in front of a topic. -/
theorem dropMark?_topic (subject : List Char) :
    dropMark? (topic subject) = none ∧ (topic subject).dropWhile isBlank = topic subject := by
  have hmarks (text : List Char) (htext : text.dropWhile isBlank = text) :
      dropMark? (dropMarks text) = none ∧ (dropMarks text).dropWhile isBlank = dropMarks text := by
    induction text using dropMarks.induct with
    | case1 text rest hsome ih =>
      obtain ⟨_, _, _, after, -, -, -, -, hrest⟩ := exists_of_dropMark? hsome
      rw [dropMarks_of_dropMark?_eq_some hsome]
      exact ih (hrest ▸ dropWhile_dropWhile after)
    | case2 text hnone =>
      rw [dropMarks_of_dropMark?_eq_none hnone]
      exact ⟨hnone, htext⟩
  exact hmarks _ (dropWhile_dropWhile subject)

/-! ### Relations that go through marks -/

/-- The letters of the words that mark a reply, the brackets and the colon. -/
def markChars : List Char := ['a', 'd', 'e', 'f', 'r', 'w', '[', ']', ':']

/-- What marks are made of, apart from white space. -/
def IsMarkChar (c : Char) : Prop := isDecimalDigit c = true ∨ c.toLower ∈ markChars

instance (c : Char) : Decidable (IsMarkChar c) := inferInstanceAs (Decidable (_ ∨ _))

/-- A relation of texts in which, in front of related texts, there is white space on both sides or
none, and what a mark is made of on the right stands on the left too, perhaps in another case. -/
structure Mirrors (r : List Char → List Char → Prop) : Prop where
  dropWhile : ∀ {text other}, r text other → r (text.dropWhile isBlank) (other.dropWhile isBlank)
  cons : ∀ {text c other}, r text (c :: other) → IsMarkChar c →
    ∃ d rest, text = d :: rest ∧ d.toLower = c.toLower ∧ r rest other

namespace Mirrors

variable {r : List Char → List Char → Prop}

theorem append (h : Mirrors r) {front other : List Char} (hr : r text (front ++ other))
    (hfront : ∀ c ∈ front, IsMarkChar c) :
    ∃ same rest, text = same ++ rest ∧ same.map Char.toLower = front.map Char.toLower
      ∧ r rest other := by
  induction front generalizing text with
  | nil => exact ⟨[], text, rfl, rfl, hr⟩
  | cons c more ih =>
    rw [List.forall_mem_cons] at hfront
    obtain ⟨d, rest, rfl, hd, hrest⟩ := h.cons hr hfront.1
    obtain ⟨same, rest, rfl, hsame, hr⟩ := ih hrest hfront.2
    exact ⟨d :: same, rest, rfl, by rw [List.map_cons, List.map_cons, hd, hsame], hr⟩

theorem count (h : Mirrors r) {count other : List Char} (hr : r text (count ++ other))
    (hcount : IsCount count) :
    ∃ same rest, text = same ++ rest ∧ IsCount same ∧ r rest other := by
  rcases hcount with rfl | ⟨digits, hne, hdigits, rfl⟩
  · exact ⟨[], text, rfl, .inl rfl, hr⟩
  rw [List.cons_append, List.append_assoc] at hr
  obtain ⟨left, inner, rfl, hleft, hr⟩ := h.cons hr (.inr (by decide))
  obtain ⟨same, behind, rfl, hsame, hr⟩ := h.append hr fun c hc => .inl (hdigits c hc)
  obtain ⟨right, rest, rfl, hright, hr⟩ := h.cons hr (.inr (by decide))
  have hleft : left = '[' := (toLower_eq_iff (by decide) left).mp hleft
  have hright : right = ']' := (toLower_eq_iff (by decide) right).mp hright
  refine ⟨'[' :: (same ++ [']']), rest, ?_, .inr ⟨same, ?_, ?_, rfl⟩, hr⟩
  · rw [hleft, hright, List.cons_append, List.append_assoc]
    rfl
  · rintro rfl
    exact hne (List.map_eq_nil_iff.mp hsame.symm)
  · intro c hc
    -- the other case of a digit is a digit
    have hmem : c.toLower ∈ digits.map Char.toLower := hsame ▸ List.mem_map_of_mem hc
    obtain ⟨digit, hdigit, heq⟩ := List.mem_map.mp hmem
    rw [← isDecimalDigit_toLower, ← heq, isDecimalDigit_toLower, hdigits digit hdigit]

/-- A mark that is removed on the right can be removed on the left. -/
theorem dropMark? (h : Mirrors r) {other rest' : List Char} (hr : r text other)
    (hdrop : Thread.dropMark? other = some rest') :
    ∃ rest, Thread.dropMark? text = some rest ∧ r rest rest' := by
  obtain ⟨word, count, gap, after, hword, hcount, hgap, rfl, rfl⟩ := exists_of_dropMark? hdrop
  have hletters : ∀ small ∈ markWords, small.all (· ∈ markChars) = true := by decide
  obtain ⟨word', text, rfl, hsame, hr⟩ := h.append hr fun c hc =>
    .inr (of_decide_eq_true (List.all_eq_true.mp (hletters _ hword) _ (List.mem_map_of_mem hc)))
  obtain ⟨count', text, rfl, hcount', hr⟩ := h.count hr hcount
  -- the white space in front of the colon need not be the same
  have hcolon := h.dropWhile hr
  rw [hgap.dropWhile_append] at hcolon
  obtain ⟨colon, behind, hbehind, heq, hr⟩ := h.cons hcolon (.inr (by decide))
  obtain rfl : colon = ':' := (toLower_eq_iff (by decide) colon).mp heq
  have hmark : IsMark (word' ++ (count' ++ (text.takeWhile isBlank ++ [':']))) :=
    ⟨word', count', _, [], hsame ▸ hword, hcount', isGap_takeWhile text, List.forall_mem_nil _, rfl⟩
  have hsplit : text = text.takeWhile isBlank ++ ':' :: behind := by
    rw [← hbehind, List.takeWhile_append_dropWhile]
  refine ⟨behind.dropWhile isBlank, ?_, h.dropWhile hr⟩
  have hdropped := dropMark?_append hmark behind
  simp only [List.append_assoc, List.singleton_append] at hdropped
  rwa [← hsplit] at hdropped

end Mirrors

theorem IsMarkChar.isBlank_eq {c : Char} (h : IsMarkChar c) : isBlank c = false := by
  rcases h with hdigit | hmem
  · exact isBlank_of_isDecimalDigit hdigit
  · have hall : markChars.all (!isBlank ·) = true := by decide
    have hsmall := List.all_eq_true.mp hall _ hmem
    simpa [isBlank_toLower] using hsmall

/-! ### Case and white space -/

/-- Two texts that are the same but for the case of their ASCII letters and the length of the runs
of white space between them. -/
def Alike (text other : List Char) : Prop :=
  squeeze (text.map Char.toLower) = squeeze (other.map Char.toLower)

theorem dropWhile_map_toLower (text : List Char) :
    (text.map Char.toLower).dropWhile isBlank = (text.dropWhile isBlank).map Char.toLower := by
  have hsame : isBlank ∘ Char.toLower = isBlank := funext isBlank_toLower
  rw [List.dropWhile_map, hsame]

theorem squeeze_map_toLower (text : List Char) :
    squeeze (text.map Char.toLower) = (squeeze text).map Char.toLower :=
  squeeze_map isBlank_toLower rfl text

theorem alike_of_squeeze_eq {text other : List Char} (h : squeeze text = squeeze other) :
    Alike text other := by
  rw [Alike, squeeze_map_toLower, squeeze_map_toLower, h]

theorem mirrors_alike : Mirrors Alike where
  dropWhile := by
    intro text other h
    rw [Alike, ← dropWhile_map_toLower, ← dropWhile_map_toLower, ← dropWhile_squeeze,
      ← dropWhile_squeeze, h]
  cons := by
    intro text c other h hc
    have hblank : isBlank c.toLower = false := by rw [isBlank_toLower, hc.isBlank_eq]
    rw [Alike, List.map_cons, squeeze_cons_of_not_isBlank hblank] at h
    obtain ⟨rest, hrest, hsqueeze⟩ := exists_of_squeeze_eq_cons h hblank
    obtain ⟨d, more, rfl, hd, rfl⟩ := List.map_eq_cons_iff.mp hrest
    exact ⟨d, more, rfl, hd, hsqueeze⟩

theorem Alike.dropMarks {text other : List Char} (h : Alike text other) :
    Alike (dropMarks text) (dropMarks other) := by
  induction text using dropMarks.induct generalizing other with
  | case1 text rest hsome ih =>
    obtain ⟨rest', hsome', hrest⟩ := mirrors_alike.dropMark? h.symm hsome
    rw [dropMarks_of_dropMark?_eq_some hsome, dropMarks_of_dropMark?_eq_some hsome']
    exact ih hrest.symm
  | case2 text hnone =>
    cases hother : dropMark? other with
    | none => rwa [dropMarks_of_dropMark?_eq_none hnone, dropMarks_of_dropMark?_eq_none hother]
    | some rest =>
      obtain ⟨rest', hsome, -⟩ := mirrors_alike.dropMark? h hother
      exact absurd (hnone.symm.trans hsome) (by simp)

/-! ### Small letters -/

/-- What a mark is made of is the small form of nothing but its ASCII letters. -/
theorem toLower_lowerChar {c : Char} (h : IsMarkChar (lowerChar c)) :
    (lowerChar c).toLower = c.toLower := by
  rcases lowerChar_eq_or c with hsame | hsmall
  · rw [hsame]
  rcases h with hdigit | hmem
  · exact absurd hdigit (by simp [hsmall.isDecimalDigit_eq])
  · have hall : markChars.all (fun d => d.toNat < 0x80 && d != 'k') = true := by decide
    have hsame (d : Char) (hd : d ∈ markChars) : d.toNat < 0x80 ∧ d ≠ 'k' := by
      simpa using List.all_eq_true.mp hall d hd
    have hascii : (lowerChar c).toNat < 0x80 ∧ lowerChar c ≠ 'k' :=
      of_toLower (P := fun d small => small ∈ markChars → d.toNat < 0x80 ∧ d ≠ 'k') hsame
        (by decide) (lowerChar c) hmem
    rw [← hsmall.toLower_eq hascii.1 hascii.2, toLower_toLower]

theorem mirrors_lowerAfter :
    Mirrors fun text small => ∃ before, small = lowerAfter before text where
  dropWhile := by
    rintro text _ ⟨before, rfl⟩
    exact ⟨_, dropWhile_lowerAfter before text⟩
  cons := by
    rintro text c other ⟨before, h⟩ hc
    cases text with
    | nil => exact absurd h (List.cons_ne_nil _ _)
    | cons d rest =>
      rw [lowerAfter_cons] at h
      rcases smallForms_cases before d rest with ⟨heq, -, -⟩ | ⟨-, heq | heq | heq⟩
      · rw [heq] at h
        obtain ⟨rfl, rfl⟩ := List.cons.inj h
        exact ⟨d, rest, rfl, (toLower_lowerChar hc).symm, d :: before, rfl⟩
      -- the letters with more than one small form are in no mark
      all_goals
        rw [heq] at h
        obtain ⟨rfl, -⟩ := List.cons.inj h
        exact absurd hc (by decide)

/-! ### Keys -/

theorem toList_key (subject : String) :
    (key subject).toList = lowerAfter [] (squeeze (topic subject.toList)) := by
  rw [key, lowerCase, String.toList_ofList, toList_collapse, String.toList_ofList,
    (dropMark?_topic subject.toList).2]

/-- Subjects that differ in nothing but the case of ASCII letters and the length of the runs of
white space have one key. -/
theorem key_eq_of_alike {subject other : String} (h : Alike subject.toList other.toList) :
    key subject = key other := by
  have htopic : Alike (topic subject.toList) (topic other.toList) :=
    (mirrors_alike.dropWhile h).dropMarks
  rw [Alike, squeeze_map_toLower, squeeze_map_toLower] at htopic
  rw [← String.toList_inj, toList_key, toList_key, ← lowerAfter_map_toLower, htopic,
    lowerAfter_map_toLower]

/-- No mark shows up in a key, as it would have been one before. -/
theorem topic_key (subject : String) : topic (key subject).toList = (key subject).toList := by
  obtain ⟨hnone, hplain⟩ := dropMark?_topic subject.toList
  rw [toList_key]
  generalize topic subject.toList = text at hnone hplain ⊢
  have halike : Alike text (squeeze text) := alike_of_squeeze_eq (squeeze_squeeze text).symm
  have hnone' : dropMark? (lowerAfter [] (squeeze text)) = none := by
    rw [Option.eq_none_iff_forall_ne_some]
    intro small hsmall
    obtain ⟨rest, hrest, -⟩ := mirrors_lowerAfter.dropMark? ⟨[], rfl⟩ hsmall
    obtain ⟨_, hsome, -⟩ := mirrors_alike.dropMark? halike hrest
    exact absurd (hnone.symm.trans hsome) (by simp)
  have hplain' : (squeeze text).dropWhile isBlank = squeeze text := by
    rw [dropWhile_squeeze, hplain]
  rw [topic, dropWhile_lowerAfter_eq_self hplain', dropMarks_of_dropMark?_eq_none hnone']

/-- The key of a thread is the key of a subject that is this key. -/
theorem key_key (subject : String) : key (key subject) = key subject := by
  have hsmall : ∀ c ∈ (key subject).toList, IsSmall c := by
    rw [toList_key]
    exact fun _ => isSmall_of_mem_lowerAfter
  have hsqueeze : squeeze (key subject).toList = (key subject).toList := by
    rw [toList_key, squeeze_lowerAfter (squeeze_squeeze _)]
  rw [← String.toList_inj, toList_key, topic_key, hsqueeze, lowerAfter_eq_self hsmall]

/-- The key of a thread is what stands behind all the marks of a subject, collapsed and in small
letters. -/
theorem exists_key_eq (subject : String) :
    ∃ (gap : List Char) (marks : List (List Char)) (rest : List Char),
      IsGap gap ∧ (∀ mark ∈ marks, IsMark mark)
      ∧ subject.toList = gap ++ (marks.flatten ++ rest)
      ∧ (∀ mark, IsMark mark → ¬mark <+: rest)
      ∧ key subject = lowerCase (collapse (String.ofList rest)) := by
  obtain ⟨marks, hmarks, hsplit⟩ := exists_marks (subject.toList.dropWhile isBlank)
  refine ⟨_, marks, topic subject.toList, isGap_takeWhile subject.toList, hmarks, ?_, ?_, rfl⟩
  · rw [topic, ← hsplit, List.takeWhile_append_dropWhile]
  · rintro mark hmark ⟨more, hmore⟩
    have hsome := dropMark?_append hmark more
    rw [hmore, (dropMark?_topic subject.toList).1] at hsome
    exact absurd hsome (by simp)

/-- The key of a thread is what stands behind all the marks of a subject, collapsed and in small
letters. So neither further marks in front, each a word in any case of its letters, perhaps a number
in brackets, and a colon with white space on either side or none, nor the length of the runs of
white space, nor white space at the ends, nor the case of ASCII letters change it. And the key is
the key of itself. -/
theorem key_canonical (subject : String) :
    (∃ (gap : List Char) (marks : List (List Char)) (rest : List Char),
        IsGap gap ∧ (∀ mark ∈ marks, IsMark mark)
        ∧ subject.toList = gap ++ (marks.flatten ++ rest)
        ∧ (∀ mark, IsMark mark → ¬mark <+: rest)
        ∧ key subject = lowerCase (collapse (String.ofList rest)))
      ∧ (∀ marks : List String, (∀ mark ∈ marks, IsMark mark.toList) →
        key (marks.foldr (· ++ ·) subject) = key subject)
      ∧ (∀ front gap other back : String, subject = front ++ gap ++ back → IsGap gap.toList →
        IsGap other.toList → gap ≠ "" → other ≠ "" → key (front ++ other ++ back) = key subject)
      ∧ (∀ front back : String, IsGap front.toList → IsGap back.toList →
        key (front ++ subject ++ back) = key subject)
      ∧ (∀ other : String, lowerAscii other = lowerAscii subject → key other = key subject)
      ∧ key (key subject) = key subject := by
  refine ⟨exists_key_eq subject, ?_, ?_, ?_, ?_, key_key subject⟩
  · intro marks hmarks
    induction marks with
    | nil => rfl
    | cons mark rest ih =>
      rw [List.forall_mem_cons] at hmarks
      rw [← ih hmarks.2, List.foldr_cons, ← String.toList_inj, toList_key, toList_key,
        String.toList_append, topic_append hmarks.1]
  · rintro front gap other back rfl hgap hother hne hne'
    refine key_eq_of_alike (alike_of_squeeze_eq ?_)
    simp only [String.toList_append, List.append_assoc]
    exact squeeze_replace hother hgap (by simpa using hne') (by simpa using hne) _ _
  · intro front back hfront hback
    have hback : key (subject ++ back) = key subject := by
      refine key_eq_of_alike (alike_of_squeeze_eq ?_)
      rw [String.toList_append, squeeze_append hback]
    rw [← hback, ← String.toList_inj, toList_key, toList_key, String.append_assoc,
      String.toList_append, topic, hfront.dropWhile_append, topic]
  · intro other h
    have hletters : other.toList.map Char.toLower = subject.toList.map Char.toLower := by
      have hlist := congrArg String.toList h
      rwa [lowerAscii, lowerAscii, String.toList_map, String.toList_map] at hlist
    exact key_eq_of_alike (congrArg squeeze hletters)

end MarkupFeed.Thread
