import MarkupFeed.Text.Blank

/-!
# Laws of trimming, splitting and joining

* A text that is trimmed (`IsTrimmed`) stays what it is when it is trimmed, and trimming makes every
  text one.
* `splitChars_joinChars`: parts that are joined with a separator none of them has can be split
  again.
* `collapse_collapse`: collapsing twice is collapsing once, and what it gives is trimmed and has no
  line break.
-/

namespace MarkupFeed.Text

/-! ### Trimming -/

section Trimming

variable {α : Type} {p : α → Bool}

/-- Neither the first nor the last member of a list is one of a class. -/
structure IsTrimmed (p : α → Bool) (list : List α) : Prop where
  head : ∀ x ∈ list.head?, p x = false
  last : ∀ x ∈ list.getLast?, p x = false

theorem isTrimmed_nil : IsTrimmed p [] :=
  ⟨fun _ h => by simp at h, fun _ h => by simp at h⟩

theorem head?_append_of_ne_nil {list : List α} (h : list ≠ []) (more : List α) :
    (list ++ more).head? = list.head? := by
  obtain ⟨x, rest, rfl⟩ := List.exists_cons_of_ne_nil h
  rfl

theorem isTrimmed_of_forall {list : List α} (h : ∀ x ∈ list, p x = false) :
    IsTrimmed p list := by
  constructor
  · intro x hx
    exact h x (List.mem_of_mem_head? hx)
  · intro x hx
    exact h x (List.mem_of_mem_getLast? hx)

theorem dropWhile_eq_self {list : List α} (h : ∀ x ∈ list.head?, p x = false) :
    list.dropWhile p = list := by
  cases list with
  | nil => rfl
  | cons x rest =>
    have hx : p x = false := h x rfl
    rw [List.dropWhile_cons, hx]
    rfl

theorem dropEndWhile_eq_self {list : List α} (h : ∀ x ∈ list.getLast?, p x = false) :
    dropEndWhile p list = list := by
  rw [dropEndWhile, dropWhile_eq_self, List.reverse_reverse]
  rwa [List.head?_reverse]

theorem dropEndWhile_concat {x : α} (hx : p x = true) (list : List α) :
    dropEndWhile p (list ++ [x]) = dropEndWhile p list := by
  rw [dropEndWhile, List.reverse_concat, List.dropWhile_cons, if_pos hx]
  rfl

theorem dropEndWhile_append {list more : List α} (h : ∀ x ∈ more, p x = true) :
    dropEndWhile p (list ++ more) = dropEndWhile p list := by
  rw [dropEndWhile, dropEndWhile, List.reverse_append, List.dropWhile_append_of_pos]
  simpa using h

/-- What is left of a list is its beginning. -/
theorem isPrefix_dropEndWhile (list : List α) : dropEndWhile p list <+: list := by
  have h := List.dropWhile_suffix p (l := list.reverse)
  rw [dropEndWhile, ← List.reverse_suffix, List.reverse_reverse]
  exact h

theorem not_of_mem_head?_dropWhile {list : List α} {x : α} (h : x ∈ (list.dropWhile p).head?) :
    p x = false := by
  have hnot := List.head?_dropWhile_not p list
  rw [Option.mem_def.mp h] at hnot
  exact hnot

theorem not_of_mem_getLast?_dropEndWhile {list : List α} {x : α}
    (h : x ∈ (dropEndWhile p list).getLast?) : p x = false := by
  rw [dropEndWhile, List.getLast?_reverse] at h
  exact not_of_mem_head?_dropWhile h

variable {q : Char → Bool} {text : List Char}

theorem IsTrimmed.trimChars_eq (h : IsTrimmed q text) : trimChars q text = text := by
  rw [trimChars, dropWhile_eq_self h.head, dropEndWhile_eq_self h.last]

theorem isTrimmed_trimChars (q : Char → Bool) (text : List Char) :
    IsTrimmed q (trimChars q text) := by
  constructor
  · -- what is left after dropping at the end begins as the text did before
    intro c hc
    obtain ⟨after, hafter⟩ := isPrefix_dropEndWhile (p := q) (text.dropWhile q)
    have hhead : (dropEndWhile q (text.dropWhile q)).head? = some c := hc
    have hdrop : (text.dropWhile q).head? = some c := by
      rw [← hafter, List.head?_append, hhead]
      rfl
    exact not_of_mem_head?_dropWhile hdrop
  · intro c hc
    exact not_of_mem_getLast?_dropEndWhile hc

theorem mem_of_mem_trimChars {c : Char} (h : c ∈ trimChars q text) : c ∈ text :=
  (List.dropWhile_sublist q).subset ((isPrefix_dropEndWhile _).subset h)

theorem trimChars_cons {c : Char} (hc : q c = true) (text : List Char) :
    trimChars q (c :: text) = trimChars q text := by
  rw [trimChars, List.dropWhile_cons, if_pos hc]
  rfl

/-- A text comes out of a pair of characters that are trimmed. -/
theorem IsTrimmed.trimChars_enclosed (h : IsTrimmed q text) {left right : Char}
    (hl : q left = true) (hr : q right = true) :
    trimChars q (left :: (text ++ [right])) = text := by
  rw [trimChars_cons hl]
  cases text with
  | nil =>
    rw [List.nil_append, trimChars_cons hr]
    rfl
  | cons c rest =>
    have hdrop : (c :: rest ++ [right]).dropWhile q = c :: rest ++ [right] :=
      dropWhile_eq_self fun x hx => h.head x hx
    rw [trimChars, hdrop, dropEndWhile_concat hr, dropEndWhile_eq_self h.last]

theorem trim_space (text : String) (h : IsTrimmed isBlank text.toList) :
    trim (" " ++ text) = text := by
  rw [trim, String.toList_append]
  show String.ofList (trimChars isBlank (' ' :: text.toList)) = text
  rw [trimChars_cons (by decide), h.trimChars_eq, String.ofList_toList]

end Trimming

/-! ### Splitting and joining -/

section Splitting

variable {p : Char → Bool}

theorem splitChars_ne_nil (p : Char → Bool) (text : List Char) : splitChars p text ≠ [] := by
  cases text with
  | nil => exact List.cons_ne_nil _ _
  | cons c rest =>
    unfold splitChars
    split
    · exact List.cons_ne_nil _ _
    · split <;> exact List.cons_ne_nil _ _

/-- A character in front goes into the first part. -/
theorem splitChars_cons {c : Char} (hc : p c = false) {text part : List Char}
    {parts : List (List Char)} (h : splitChars p text = part :: parts) :
    splitChars p (c :: text) = (c :: part) :: parts := by
  rw [splitChars, hc, h]
  rfl

/-- No part has a separator. -/
theorem not_of_mem_splitChars {text part : List Char} (h : part ∈ splitChars p text) :
    ∀ c ∈ part, p c = false := by
  induction text generalizing part with
  | nil =>
    obtain rfl : part = [] := List.mem_singleton.mp h
    exact List.forall_mem_nil _
  | cons d rest ih =>
    obtain ⟨first, others, hrest⟩ := List.exists_cons_of_ne_nil (splitChars_ne_nil p rest)
    cases hd : p d with
    | true =>
      rw [splitChars, if_pos hd, List.mem_cons] at h
      rcases h with rfl | h
      · exact List.forall_mem_nil _
      · exact ih h
    | false =>
      -- the character belongs to the first part of the rest
      rw [splitChars_cons hd hrest, List.mem_cons] at h
      rcases h with rfl | h
      · rw [List.forall_mem_cons]
        exact ⟨hd, ih (hrest ▸ List.mem_cons_self)⟩
      · exact ih (hrest ▸ List.mem_cons_of_mem _ h)

/-- The first part is at the beginning of the text. -/
theorem isPrefix_of_splitChars {text first : List Char} {others : List (List Char)}
    (h : splitChars p text = first :: others) : first <+: text := by
  induction text generalizing first others with
  | nil => exact (List.cons.inj h).1 ▸ List.prefix_rfl
  | cons d rest ih =>
    obtain ⟨next, more, hrest⟩ := List.exists_cons_of_ne_nil (splitChars_ne_nil p rest)
    cases hd : p d with
    | true =>
      rw [splitChars, if_pos hd] at h
      exact (List.cons.inj h).1 ▸ List.nil_prefix
    | false =>
      rw [splitChars_cons hd hrest] at h
      obtain ⟨rfl, -⟩ := List.cons.inj h
      exact List.cons_prefix_cons.mpr ⟨rfl, ih hrest⟩

/-- Every part is a part of the text. -/
theorem isInfix_of_mem_splitChars {text part : List Char} (h : part ∈ splitChars p text) :
    part <:+: text := by
  induction text generalizing part with
  | nil => exact List.mem_singleton.mp h ▸ List.infix_rfl
  | cons d rest ih =>
    obtain ⟨next, more, hrest⟩ := List.exists_cons_of_ne_nil (splitChars_ne_nil p rest)
    cases hd : p d with
    | true =>
      rw [splitChars, if_pos hd, List.mem_cons] at h
      rcases h with rfl | h
      · exact List.nil_infix
      · exact (ih h).trans (List.suffix_cons d rest).isInfix
    | false =>
      -- the first part goes on into the rest, and the others lie in it
      have hfirst := isPrefix_of_splitChars hrest
      rw [splitChars_cons hd hrest, List.mem_cons] at h
      rcases h with rfl | h
      · exact (List.cons_prefix_cons.mpr ⟨rfl, hfirst⟩).isInfix
      · have hpart : part ∈ splitChars p rest := hrest ▸ List.mem_cons_of_mem _ h
        exact (ih hpart).trans (List.suffix_cons d rest).isInfix

theorem splitChars_part {part : List Char} (h : ∀ c ∈ part, p c = false) :
    splitChars p part = [part] := by
  induction part with
  | nil => rfl
  | cons c rest ih =>
    rw [List.forall_mem_cons] at h
    exact splitChars_cons h.1 (ih h.2)

theorem splitChars_part_append {part : List Char} (h : ∀ c ∈ part, p c = false) {separator : Char}
    (hs : p separator = true) (text : List Char) :
    splitChars p (part ++ separator :: text) = part :: splitChars p text := by
  induction part with
  | nil => rw [List.nil_append, splitChars, if_pos hs]
  | cons c rest ih =>
    rw [List.forall_mem_cons] at h
    exact splitChars_cons h.1 (ih h.2)

/-- A text with a single part has no separator. -/
theorem eq_of_splitChars_eq_singleton {text part : List Char} (h : splitChars p text = [part]) :
    part = text := by
  induction text generalizing part with
  | nil => exact (List.cons.inj h).1.symm
  | cons c rest ih =>
    obtain ⟨first, others, hrest⟩ := List.exists_cons_of_ne_nil (splitChars_ne_nil p rest)
    cases hc : p c with
    | true =>
      rw [splitChars, if_pos hc, hrest] at h
      exact absurd (List.cons.inj h).2 (List.cons_ne_nil _ _)
    | false =>
      rw [splitChars_cons hc hrest] at h
      obtain ⟨rfl, rfl⟩ := List.cons.inj h
      rw [ih hrest]

/-- A separator keeps apart what stands on its two sides. -/
theorem splitChars_append {separator : Char} (hs : p separator = true) (text more : List Char) :
    splitChars p (text ++ separator :: more) = splitChars p text ++ splitChars p more := by
  induction text with
  | nil =>
    show splitChars p (separator :: more) = [] :: splitChars p more
    rw [splitChars, if_pos hs]
  | cons c rest ih =>
    obtain ⟨first, others, hrest⟩ := List.exists_cons_of_ne_nil (splitChars_ne_nil p rest)
    rw [hrest, List.cons_append] at ih
    rw [List.cons_append]
    cases hc : p c with
    | true => rw [splitChars, splitChars, if_pos hc, if_pos hc, ih, hrest]; rfl
    | false => rw [splitChars_cons hc ih, splitChars_cons hc hrest]; rfl

theorem joinChars_cons {separator part : List Char} {parts : List (List Char)} (h : parts ≠ []) :
    joinChars separator (part :: parts) = part ++ separator ++ joinChars separator parts := by
  cases parts with
  | nil => exact absurd rfl h
  | cons => rfl

theorem joinChars_ne_nil {separator part : List Char} (h : part ≠ [])
    (parts : List (List Char)) : joinChars separator (part :: parts) ≠ [] := by
  by_cases hparts : parts = []
  · rw [hparts]
    exact h
  · rw [joinChars_cons hparts, List.append_assoc]
    exact List.append_ne_nil_of_left_ne_nil h _

/-- Joined parts can be split again. -/
theorem splitChars_joinChars {separator : Char} (hs : p separator = true)
    {parts : List (List Char)} (hne : parts ≠ []) (h : ∀ part ∈ parts, ∀ c ∈ part, p c = false) :
    splitChars p (joinChars [separator] parts) = parts := by
  induction parts with
  | nil => exact absurd rfl hne
  | cons part rest ih =>
    rw [List.forall_mem_cons] at h
    by_cases hrest : rest = []
    · rw [hrest]
      exact splitChars_part h.1
    · rw [joinChars_cons hrest, List.append_assoc]
      show splitChars p (part ++ separator :: joinChars [separator] rest) = _
      rw [splitChars_part_append h.1 hs, ih hrest h.2]

theorem mem_joinChars {separator : List Char} {parts : List (List Char)} {c : Char}
    (h : c ∈ joinChars separator parts) : c ∈ separator ∨ ∃ part ∈ parts, c ∈ part := by
  induction parts with
  | nil => exact absurd h List.not_mem_nil
  | cons part rest ih =>
    by_cases hrest : rest = []
    · rw [hrest] at h
      exact .inr ⟨part, List.mem_cons_self, h⟩
    · rw [joinChars_cons hrest, List.mem_append, List.mem_append] at h
      rcases h with (h | h) | h
      · exact .inr ⟨part, List.mem_cons_self, h⟩
      · exact .inl h
      · refine (ih h).imp_right ?_
        rintro ⟨other, hother, hc⟩
        exact ⟨other, List.mem_cons_of_mem _ hother, hc⟩

end Splitting

/-! ### Words -/

theorem isWord_of_mem_wordsOf {text word : List Char} (h : word ∈ wordsOf text) :
    word ≠ [] ∧ ∀ c ∈ word, isBlank c = false := by
  rw [wordsOf, List.mem_filter] at h
  exact ⟨by simpa using h.2, not_of_mem_splitChars h.1⟩

/-- Words with spaces between them are the words of what they are joined to. -/
theorem wordsOf_joinChars {words : List (List Char)}
    (h : ∀ word ∈ words, word ≠ [] ∧ ∀ c ∈ word, isBlank c = false) :
    wordsOf (joinChars [' '] words) = words := by
  by_cases hne : words = []
  · rw [hne]
    rfl
  · have hblank : ∀ word ∈ words, ∀ c ∈ word, isBlank c = false := fun word hword =>
      (h word hword).2
    rw [wordsOf, splitChars_joinChars (by decide) hne hblank, List.filter_eq_self]
    intro word hword
    simpa using (h word hword).1

theorem collapse_collapse (text : String) : collapse (collapse text) = collapse text := by
  rw [collapse, collapse, joinWords, joinWords, String.toList_ofList,
    wordsOf_joinChars fun _ => isWord_of_mem_wordsOf]

/-- Joined words begin and end with words. -/
theorem isTrimmed_joinChars {words : List (List Char)} {separator : List Char}
    (h : ∀ word ∈ words, word ≠ [] ∧ ∀ c ∈ word, isBlank c = false) :
    IsTrimmed isBlank (joinChars separator words) := by
  induction words with
  | nil => exact isTrimmed_nil
  | cons word rest ih =>
    rw [List.forall_mem_cons] at h
    obtain ⟨⟨hne, hword⟩, hrest⟩ := h
    obtain ⟨c, more, rfl⟩ := List.exists_cons_of_ne_nil hne
    by_cases hnil : rest = []
    · rw [hnil]
      exact isTrimmed_of_forall hword
    · -- the rest is not empty, as its first word is not
      have hjoined : joinChars separator rest ≠ [] := by
        obtain ⟨next, others, rfl⟩ := List.exists_cons_of_ne_nil hnil
        exact joinChars_ne_nil (hrest next List.mem_cons_self).1 others
      rw [joinChars_cons hnil]
      constructor
      · intro x hx
        rw [List.append_assoc, List.cons_append, List.head?_cons, Option.mem_some] at hx
        exact hword x (hx ▸ List.mem_cons_self)
      · intro x hx
        rw [Option.mem_def, List.getLast?_append, List.getLast?_eq_some_getLast hjoined,
          Option.some_or, ← List.getLast?_eq_some_getLast hjoined] at hx
        exact (ih hrest).last x hx

theorem isTrimmed_collapse (text : String) : IsTrimmed isBlank (collapse text).toList := by
  rw [collapse, joinWords, String.toList_ofList]
  exact isTrimmed_joinChars fun _ => isWord_of_mem_wordsOf

/-! ### Lines -/

/-- A text without line breaks. -/
def IsLine (text : List Char) : Prop := ∀ c ∈ text, c ≠ '\n' ∧ c ≠ '\r'

instance (text : List Char) : Decidable (IsLine text) :=
  List.decidableBAll (fun c => c ≠ '\n' ∧ c ≠ '\r') text

theorem isLine_of_subset {text part : List Char} (h : IsLine text) (hsub : part ⊆ text) :
    IsLine part :=
  fun c hc => h c (hsub hc)

theorem isLine_nil : IsLine [] := List.forall_mem_nil _

theorem isLine_append {text more : List Char} :
    IsLine (text ++ more) ↔ IsLine text ∧ IsLine more :=
  List.forall_mem_append

theorem isLine_toList_append {text more : String} :
    IsLine (text ++ more).toList ↔ IsLine text.toList ∧ IsLine more.toList := by
  rw [String.toList_append, isLine_append]

/-- No line break is left between words. -/
theorem isLine_joinWords {separator : Char} (hs : separator ≠ '\n' ∧ separator ≠ '\r')
    (text : String) : IsLine (joinWords separator text).toList := by
  intro c hc
  rw [joinWords, String.toList_ofList] at hc
  rcases mem_joinChars hc with hc | ⟨word, hword, hc⟩
  · rwa [List.mem_singleton.mp hc]
  · -- line breaks are white space
    have hblank := (isWord_of_mem_wordsOf hword).2 c hc
    constructor
    · rintro rfl
      exact absurd hblank (by decide)
    · rintro rfl
      exact absurd hblank (by decide)

end MarkupFeed.Text
