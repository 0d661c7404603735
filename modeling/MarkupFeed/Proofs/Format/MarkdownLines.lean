import MarkupFeed.Proofs.Format.Steady
import MarkupFeed.Proofs.Text.Grammars
import MarkupFeed.Proofs.Tokenizer.ByLine
import MarkupFeed.Proofs.Tokenizer.Words

/-!
# What the lines of a Markdown text are read as

A line is a header or a list item by the grammar (`Markdown.headers`, `Markdown.listItems`). To each
state there belongs what may be left of such a line (`Markdown.headersFrom`,
`Markdown.listItemsFrom`); the state between tokens has the whole lines, so that one octet at a time
suffices to see that the machine recognizes them. As every octet goes on the token that the first
one begins, each line is one token (`Markdown.line_fresh`). The main result is
`Markdown.classifies_lines`.
-/

namespace MarkupFeed.Markdown

open Grammar

/-! ### The grammar -/

/-- The rest of a line, whatever it is. -/
def anything : Language UInt8 := many fun _ => true

/-- A header begins with `#`, or underlines the line above with `=`, or with two or more `-`. -/
def headers : Language UInt8 :=
  char '#' * anything + many1 (· == '='.toUInt8) + char '-' * many1 (· == '-'.toUInt8)

/-- A list item begins with `-`, `*` or `+`, or with a number and `.` or `)`, and white space. -/
def listItems : Language UInt8 :=
  one (Octet.among ['-', '*', '+']) * one Octet.isSpaceOrTab * anything
    + many1 Octet.isDigit * one (Octet.among ['.', ')']) * one Octet.isSpaceOrTab * anything

@[simp] theorem mem_anything (text : Bytes) : text ∈ anything := by
  induction text with
  | nil => exact nil_mem_many
  | cons b rest ih => exact cons_mem_many.mpr ⟨rfl, ih⟩

/-! ### What may follow in a state -/

/-- What is left, in a state, of a header. -/
def headersFrom : State → Language UInt8
  | .idle => headers
  | .dash => many1 (· == '-'.toUInt8)
  | .dashes => many (· == '-'.toUInt8)
  | .equals => many (· == '='.toUInt8)
  | .bullet | .ordinal | .ordinalMark => 0
  | .line kind => if kind = .header then anything else 0

/-- What is left, in a state, of a list item. -/
def listItemsFrom : State → Language UInt8
  | .idle => listItems
  | .dash | .bullet | .ordinalMark => one Octet.isSpaceOrTab * anything
  | .ordinal =>
    many Octet.isDigit * one (Octet.among ['.', ')']) * one Octet.isSpaceOrTab * anything
  | .dashes | .equals => 0
  | .line kind => if kind = .listItem then anything else 0

section Octets

variable {b : UInt8} {rest : Bytes}

/-- No digit begins a header or an item without a number. -/
theorem isDigit_eq_false :
    b = '#'.toUInt8 ∨ b = '='.toUInt8 ∨ Octet.among ['-', '*', '+'] b = true →
      Octet.isDigit b = false := by
  decide +revert

theorem among_bullets : Octet.among ['-', '*', '+'] b = true
    ↔ b = '-'.toUInt8 ∨ Octet.among ['*', '+'] b = true := by
  decide +revert

theorem among_bullets_eq_false : b = '#'.toUInt8 ∨ b = '='.toUInt8 →
    Octet.among ['-', '*', '+'] b = false := by
  decide +revert

theorem among_marks_eq_false : Octet.isDigit b = true → Octet.among ['.', ')'] b = false := by
  decide +revert

theorem nil_mem_headers : [] ∈ headers ↔ False := by
  simp only [headers, Language.mem_add, nil_mem_char_mul, nil_mem_many1, or_self]

theorem cons_mem_headers : b :: rest ∈ headers
    ↔ b = '#'.toUInt8
      ∨ b = '='.toUInt8 ∧ rest ∈ many (· == '='.toUInt8)
      ∨ b = '-'.toUInt8 ∧ rest ∈ many1 (· == '-'.toUInt8) := by
  simp only [headers, Language.mem_add, cons_mem_char_mul, cons_mem_many1, mem_anything, and_true,
    beq_iff_eq, or_assoc]

theorem nil_mem_listItems : [] ∈ listItems ↔ False := by
  simp only [listItems, Language.mem_add, mul_assoc, nil_mem_one_mul, nil_mem_many1_mul, or_self]

theorem cons_mem_listItems : b :: rest ∈ listItems
    ↔ Octet.among ['-', '*', '+'] b = true ∧ rest ∈ one Octet.isSpaceOrTab * anything
      ∨ Octet.isDigit b = true ∧ rest ∈ listItemsFrom .ordinal := by
  simp only [listItems, listItemsFrom, Language.mem_add, mul_assoc, cons_mem_one_mul,
    cons_mem_many1_mul]

end Octets

theorem recognizes_headers : machine.Recognizes Kind.header headersFrom where
  nil s := by
    show [] ∈ headersFrom s ↔ s.kind = .header
    cases s with
    | line kind => by_cases h : kind = .header <;> simp [headersFrom, State.kind, h]
    | _ => simp [headersFrom, State.kind, nil_mem_headers]
  cons s b rest := by
    show b :: rest ∈ headersFrom s ↔ rest ∈ headersFrom (s.next b)
    have hequals : '='.toUInt8 ≠ '#'.toUInt8 ∧ '='.toUInt8 ≠ '-'.toUInt8 := by decide
    have hdash : '-'.toUInt8 ≠ '#'.toUInt8 := by decide
    cases s with
    | line kind => by_cases h : kind = .header <;> simp [headersFrom, State.next, h]
    | idle =>
      rw [headersFrom, cons_mem_headers, State.next]
      split_ifs <;> simp [headersFrom] <;> grind
    | _ =>
      rw [State.next]
      split_ifs <;> simp_all [headersFrom]

theorem recognizes_listItems : machine.Recognizes Kind.listItem listItemsFrom where
  nil s := by
    show [] ∈ listItemsFrom s ↔ s.kind = .listItem
    cases s with
    | line kind => by_cases h : kind = .listItem <;> simp [listItemsFrom, State.kind, h]
    | ordinal => simp [listItemsFrom, State.kind, mul_assoc]
    | _ => simp [listItemsFrom, State.kind, nil_mem_listItems]
  cons s b rest := by
    show b :: rest ∈ listItemsFrom s ↔ rest ∈ listItemsFrom (s.next b)
    have hbullets := @among_bullets b
    cases s with
    | line kind => by_cases h : kind = .listItem <;> simp [listItemsFrom, State.next, h]
    | idle =>
      have hdigit := @isDigit_eq_false b
      have hnone := @among_bullets_eq_false b
      rw [listItemsFrom, cons_mem_listItems, State.next]
      split_ifs <;> simp only [listItemsFrom, reduceCtorEq, reduceIte, Language.notMem_zero]
        <;> grind
    | ordinal =>
      have hmark := @among_marks_eq_false b
      rw [State.next]
      split_ifs <;> simp_all [listItemsFrom, mul_assoc]
    | dash =>
      have hblank : Octet.isSpaceOrTab '-'.toUInt8 = false := by decide
      rw [State.next]
      split_ifs <;> simp_all [listItemsFrom]
    | _ =>
      rw [State.next]
      split_ifs <;> simp_all [listItemsFrom]

/-! ### The kind of a line -/

/-- The kind of the token that a line is. -/
def kindOf (line : Bytes) : Kind := (line.foldl State.next .idle).kind

theorem kindOf?_eq (s : State) (text : Bytes) :
    machine.kindOf? s text = some (text.foldl State.next s).kind := by
  induction text generalizing s with
  | nil => rfl
  | cons b rest ih => exact ih (s.next b)

theorem kindOf_eq_header_iff (line : Bytes) : kindOf line = .header ↔ line ∈ headers := by
  rw [← Option.some_inj, kindOf, ← kindOf?_eq]
  exact recognizes_headers.kindOf?_eq_some_iff State.idle line

theorem kindOf_eq_listItem_iff (line : Bytes) : kindOf line = .listItem ↔ line ∈ listItems := by
  rw [← Option.some_inj, kindOf, ← kindOf?_eq]
  exact recognizes_listItems.kindOf?_eq_some_iff State.idle line

theorem kind_next_ne_error {s : State} (hs : s = .idle ∨ s.kind ≠ .error) (b : UInt8) :
    (s.next b).kind ≠ .error := by
  cases s with
  | line kind => exact hs.resolve_left (by simp)
  | _ =>
    rw [State.next]
    split_ifs <;> simp [State.kind]

theorem kind_foldl_ne_error {s : State} (hs : s.kind ≠ .error) (text : Bytes) :
    (text.foldl State.next s).kind ≠ .error := by
  induction text generalizing s with
  | nil => exact hs
  | cons b rest ih => exact ih (kind_next_ne_error (.inr hs) b)

/-- A line that is not empty is no error. -/
theorem kindOf_ne_error {line : Bytes} (h : line ≠ []) : kindOf line ≠ .error := by
  obtain ⟨b, rest, rfl⟩ := List.exists_cons_of_ne_nil h
  exact kind_foldl_ne_error (kind_next_ne_error (.inl rfl) b) rest

/-! ### Lines -/

/-- The tokens of a line. -/
def lineTokens (line : Bytes) : List (Event Kind) :=
  if line.isEmpty then [] else [.token (kindOf line) line false]

/-- Inside a token, the rest of the line belongs to it. -/
theorem line_busy {s : State} (hs : s ≠ .idle) (run text : Bytes) :
    Reading.line (m := machine) ⟨s, run, .none⟩ text
      = ([.token (text.foldl State.next s).kind (run ++ text) false], State.idle) := by
  induction text generalizing s run with
  | nil =>
    have hbusy : machine.isIdle s = false := beq_eq_false_iff_ne.mpr hs
    rw [Reading.line, Reading.beforeLineEnd, hbusy, List.append_nil]
    rfl
  | cons b rest ih =>
    have hstep : machine.step s b = .shift (s.next b) := rfl
    rw [Reading.line, Reading.offer_of_shift hstep, ih (State.next_ne_idle s b), List.append_assoc]
    rfl

theorem line_fresh (text : Bytes) :
    Reading.line ({} : Reading machine) text = (lineTokens text, State.idle) := by
  cases text with
  | nil => rfl
  | cons b rest =>
    have hstep : machine.step State.idle b = .shift (State.idle.next b) := rfl
    rw [Reading.line, Reading.offer_of_shift hstep, line_busy (State.next_ne_idle .idle b)]
    rfl

theorem isNewline_lineTokens (line : Bytes) :
    ∀ event ∈ lineTokens line, event.isNewline = false := by
  unfold lineTokens
  split <;> simp [Event.isNewline]

/-- The events of an input. -/
def eventsOf (input : Bytes) : List (Event Kind) := Reading.events ({} : Reading machine) input

theorem eventsOf_lastLine {text : Bytes} (h : text.IsLine) : eventsOf text = lineTokens text := by
  rw [eventsOf, Reading.events_lastLine (fun _ => rfl) rfl h, line_fresh]

theorem eventsOf_lineEnd {text ending rest : Bytes} (h : text.IsLine)
    (hend : Reading.EndsLine ending rest) :
    eventsOf (text ++ (ending ++ rest)) = lineTokens text ++ .newline ending :: eventsOf rest := by
  rw [eventsOf, Reading.events_lineEnd rfl rfl h hend, line_fresh]
  rfl

/-- The events of an input are the tokens of its lines, between their ends. -/
theorem byLine_eventsOf (input : Bytes) :
    Event.byLine (eventsOf input) = input.lines.map lineTokens := by
  induction input using Bytes.line_induction with
  | last text htext =>
    rw [eventsOf_lastLine htext, Event.byLine_tokens (isNewline_lineTokens text),
      Bytes.lines_lastLine htext]
    cases text <;> rfl
  | line text ending rest htext hend ih =>
    rw [eventsOf_lineEnd htext hend, Event.byLine_newline (isNewline_lineTokens text), ih,
      Bytes.lines_lineEnd htext hend, List.map_cons]

/-- What is reported of a line: nothing if it is empty, and otherwise one token, the line, of the
kind that the grammar gives it. -/
structure IsClassified (line : Bytes) (tokens : List (Event Kind)) : Prop where
  empty : line = [] → tokens = []
  whole : line ≠ [] → ∃ kind, tokens = [.token kind line false]
    ∧ (kind = .header ↔ line ∈ headers)
    ∧ (kind = .listItem ↔ line ∈ listItems)
    ∧ (kind = .para ↔ line ∉ headers ∧ line ∉ listItems)

theorem isClassified_lineTokens (line : Bytes) : IsClassified line (lineTokens line) where
  empty := by
    rintro rfl
    rfl
  whole hne := by
    refine ⟨kindOf line, if_neg (by simpa using hne), kindOf_eq_header_iff line,
      kindOf_eq_listItem_iff line, ?_⟩
    rw [← kindOf_eq_header_iff, ← kindOf_eq_listItem_iff]
    have herror := kindOf_ne_error hne
    cases hkind : kindOf line <;> simp_all

/-- Whatever buffers an input comes in, each line of it that is not empty is read as one token. It
is a header or a list item if the line is one by the grammar, and a paragraph if it is neither. Of
an empty line nothing is reported but its end. -/
theorem classifies_lines (buffers : List Bytes) :
    List.Forall₂ IsClassified (Bytes.lines buffers.flatten)
      (Event.byLine (Event.merged (machine.events buffers))) := by
  have hm : machine.IsSteady := Format.isSteady_machine Format.defaultStyle .markdown
  have hlines : Event.byLine (Event.merged (machine.events buffers))
      = (Bytes.lines buffers.flatten).map lineTokens :=
    (congrArg Event.byLine (machine.merged_events hm buffers)).trans (byLine_eventsOf _)
  have hforall : List.Forall₂ IsClassified (Bytes.lines buffers.flatten)
      ((Bytes.lines buffers.flatten).map lineTokens) := by
    rw [List.forall₂_map_right_iff, List.forall₂_same]
    exact fun line _ => isClassified_lineTokens line
  exact hlines ▸ hforall

example :
    Event.byLine (machine.tokens (Bytes.ascii "# a\n\n---\n1) b\n--x"))
      = [[.token .header (Bytes.ascii "# a") false], [],
        [.token .header (Bytes.ascii "---") false],
        [.token .listItem (Bytes.ascii "1) b") false],
        [.token .para (Bytes.ascii "--x") false]] := by
  decide

end MarkupFeed.Markdown
