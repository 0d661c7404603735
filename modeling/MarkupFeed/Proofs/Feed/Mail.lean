import MarkupFeed.Feed.Mail
import MarkupFeed.Proofs.Text.Utf8

/-!
# Quoting the content of a mailbox, and unquoting it

* `unquote_quote`: quoting is undone by unquoting, and `isPrefixOf_quote`: a quoted line does not
  read like the line between two messages.
* `linesOf_joinChars`: content of lines of which the last one is not empty is taken apart into
  them.
-/

namespace MarkupFeed.Feed.Mail

/-! ### Quoting -/

/-- A line is unquoted by taking off the first character, or not at all. -/
theorem unquote_eq (line : List Char) :
    unquote line = line
      ∨ ∃ rest, line = '>' :: rest ∧ isQuotable rest = true ∧ unquote line = rest := by
  fun_cases unquote line with
  | case1 rest hquotable => exact .inr ⟨rest, rfl, hquotable, rfl⟩
  | case2 rest hquotable => exact .inl rfl
  | case3 => exact .inl rfl

theorem isLine_unquote {line : List Char} (h : Text.IsLine line) :
    Text.IsLine (unquote line) := by
  rcases unquote_eq line with heq | ⟨rest, rfl, -, heq⟩
  · rwa [heq]
  · rw [heq]
    exact fun c hc => h c (List.mem_cons_of_mem _ hc)

/-- A line that is unquoted does not become empty. -/
theorem unquote_ne_nil {line : List Char} (h : line ≠ []) : unquote line ≠ [] := by
  rcases unquote_eq line with heq | ⟨rest, rfl, hquotable, heq⟩
  · rwa [heq]
  · rw [heq]
    rintro rfl
    exact absurd hquotable (by decide)

/-- One more `>` in front changes nothing about what a line reads like. -/
theorem isQuotable_cons (line : List Char) : isQuotable ('>' :: line) = isQuotable line := rfl

/-- Quoting is undone by unquoting. -/
theorem unquote_quote (line : List Char) : unquote (quote line) = line := by
  unfold quote
  split
  · next hquotable =>
    show (if isQuotable line then line else _) = line
    rw [if_pos hquotable]
  · next hplain =>
    rcases unquote_eq line with heq | ⟨rest, rfl, hquotable, -⟩
    · exact heq
    · -- a line that unquoting would change reads like a message break and would have been quoted
      rw [isQuotable_cons] at hplain
      exact absurd hquotable hplain

theorem quote_ne_nil {line : List Char} (h : line ≠ []) : quote line ≠ [] := by
  unfold quote
  split
  · exact List.cons_ne_nil _ _
  · exact h

theorem isLine_quote {line : List Char} (h : Text.IsLine line) : Text.IsLine (quote line) := by
  unfold quote
  split
  · exact List.forall_mem_cons.mpr ⟨⟨by decide, by decide⟩, h⟩
  · exact h

/-- A quoted line does not read like the line between two messages. -/
theorem isPrefixOf_quote (line : List Char) : "From ".toList.isPrefixOf (quote line) = false := by
  unfold quote
  split
  · rfl
  · next hplain =>
    rw [Bool.eq_false_iff]
    intro hprefix
    apply hplain
    obtain ⟨rest, rfl⟩ := List.isPrefixOf_iff_prefix.mp hprefix
    exact hprefix

/-! ### Lines of content -/

/-- A text in lines, of which the last one is not empty. -/
def IsContent (text : String) : Prop :=
  ∃ lines : List (List Char), (∀ line ∈ lines, Text.IsLine line) ∧ lines.getLast? ≠ some []
    ∧ text = String.ofList (Text.joinChars ['\n'] lines)

theorem dropCarriageReturn_eq_self {line : List Char} (h : Text.IsLine line) :
    dropCarriageReturn line = line := by
  rw [dropCarriageReturn, if_neg]
  intro hlast
  exact (h _ (List.mem_of_getLast? hlast)).2 rfl

theorem dropCarriageReturn_isPrefix (line : List Char) : dropCarriageReturn line <+: line := by
  unfold dropCarriageReturn
  split
  · exact List.dropLast_prefix line
  · exact List.prefix_rfl

/-- A line of a text is the text between two LF, or the beginning of it. -/
theorem exists_part_of_mem_linesOf {text line : List Char} (h : line ∈ linesOf text) :
    ∃ part ∈ Text.splitChars (· == '\n') text, line <+: part := by
  have hclosed : ∀ line ∈ (Text.splitChars (· == '\n') text).dropLast.map dropCarriageReturn,
      ∃ part ∈ Text.splitChars (· == '\n') text, line <+: part := by
    intro line hline
    obtain ⟨part, hpart, rfl⟩ := List.mem_map.mp hline
    exact ⟨part, (List.dropLast_sublist _).subset hpart, dropCarriageReturn_isPrefix part⟩
  unfold linesOf at h
  dsimp only at h
  split at h
  · next c rest hlast =>
    rcases List.mem_append.mp h with h | h
    · exact hclosed line h
    · exact ⟨line, List.mem_singleton.mp h ▸ List.mem_of_getLast? hlast, List.prefix_rfl⟩
  · exact hclosed line h

/-- Content of lines is taken apart into them, unless the last one is empty. -/
theorem linesOf_joinChars {lines : List (List Char)} (h : ∀ line ∈ lines, Text.IsLine line)
    (hlast : lines.getLast? ≠ some []) : linesOf (Text.joinChars ['\n'] lines) = lines := by
  by_cases hne : lines = []
  · rw [hne]
    rfl
  · have hbreak : ∀ line ∈ lines, ∀ c ∈ line, (c == '\n') = false := by
      intro line hline c hc
      simpa using (h line hline c hc).1
    have hsplit : Text.splitChars (· == '\n') (Text.joinChars ['\n'] lines) = lines :=
      Text.splitChars_joinChars rfl hne hbreak
    have hkeep : ∀ line ∈ lines.dropLast, dropCarriageReturn line = id line := by
      intro line hline
      exact dropCarriageReturn_eq_self (h line ((List.dropLast_sublist lines).subset hline))
    have hdrop : lines.dropLast.map dropCarriageReturn = lines.dropLast := by
      rw [List.map_congr_left hkeep, List.map_id]
    rw [linesOf, hsplit, hdrop]
    -- the last line is not empty and stays
    have hget := List.getLast?_eq_some_getLast hne
    obtain ⟨c, rest, hcons⟩ : ∃ c rest, lines.getLast hne = c :: rest :=
      List.exists_cons_of_ne_nil fun hnil => hlast (by rw [hget, hnil])
    rw [hcons] at hget
    rw [hget]
    show lines.dropLast ++ [c :: rest] = lines
    rw [← hcons, List.dropLast_concat_getLast]

end MarkupFeed.Feed.Mail
