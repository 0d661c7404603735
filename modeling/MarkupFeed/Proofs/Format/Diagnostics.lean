import MarkupFeed.Format.Diagnostics
import MarkupFeed.Proofs.Tokenizer.Lines

/-!
# Compiler output is read line by line where no backslash joins lines

`lineTokens` says of a line what its tokens are: the name of a file with at most two numbers
(`fieldTokens`) and a message behind it, a message alone, or an error. Main statement:
`eventsFrom_line`.
-/

namespace MarkupFeed.Diagnostics

/-! ### What a line comes to -/

/-- Whether the octet goes on the name of a file. -/
def isNameOctet (b : UInt8) : Bool := b != ':'.toUInt8

/-- The token of a message, unless it is empty. -/
def messageTokens (text : Bytes) : List (Event Kind) :=
  if text.isEmpty then [] else [.token .message text false]

/-- The tokens behind a colon, if so many numbers may follow it. -/
def fieldTokens : Nat → Bytes → List (Event Kind)
  | 0, text => messageTokens text
  | count + 1, text =>
    let digits := text.takeWhile Octet.isDigit
    if digits.isEmpty then messageTokens text
    else
      match text.dropWhile Octet.isDigit with
      | [] => [.token .lineNum digits false]
      | b :: rest =>
        if b = ':'.toUInt8 then
          .token .lineNum digits false :: .token .separator [b] false :: fieldTokens count rest
        else [.token .error text false]

/-- The tokens of a line. -/
def lineTokens : Bytes → List (Event Kind)
  | [] => []
  | b :: text =>
    if Octet.isSpaceOrTab b then [.token .message (b :: text) false]
    else
      match text.dropWhile isNameOctet with
      | [] => [.token .error (b :: text) false]
      | colon :: rest =>
        .token .filename (b :: text.takeWhile isNameOctet) false
          :: .token .separator [colon] false :: fieldTokens 2 rest

/-! ### The machine on a line -/

/-- A reading inside a line. -/
def within (phase : Phase) (token : Token) (run : Bytes) : Reading machine :=
  ⟨⟨phase, token⟩, run, .none⟩

/-- The merged events of an input. -/
def eventsFrom (input : Bytes) : List (Event Kind) := (within .start .idle []).events input

theorem line_message (phase : Phase) (run text : Bytes) :
    ((within phase .message run).line text).1 = [.token .message (run ++ text) false] :=
  congrArg Prod.fst (Reading.line_of_shift rfl rfl (fun _ => rfl) run text)

theorem line_error (phase : Phase) (run text : Bytes) :
    ((within phase .error run).line text).1 = [.token .error (run ++ text) false] :=
  congrArg Prod.fst (Reading.line_of_shift rfl rfl (fun _ => rfl) run text)

/-- The phases a number may stand in, and what comes behind its colon. -/
def IsNumbered (phase next : Phase) : Prop :=
  phase = .line ∧ next = .column ∨ phase = .column ∧ next = .message

/-- A number goes on up to a colon or the end of the line. Anything else makes it an error. -/
theorem line_number {phase next : Phase} (h : IsNumbered phase next) (run text : Bytes) :
    ((within phase .number run).line text).1
      = match text.dropWhile Octet.isDigit with
        | [] => [.token .lineNum (run ++ text.takeWhile Octet.isDigit) false]
        | b :: rest =>
          if b = ':'.toUInt8 then
            .token .lineNum (run ++ text.takeWhile Octet.isDigit) false
              :: .token .separator [b] false :: ((within next .idle []).line rest).1
          else [.token .error (run ++ text) false] := by
  induction text generalizing run with
  | nil =>
    rw [Reading.line]
    simp [Reading.beforeLineEnd, within, machine, State.finalKind, Token.kind]
  | cons b rest ih =>
    rw [Reading.line]
    by_cases hdigit : Octet.isDigit b = true
    · have hoffer : (within phase .number run).offer b
          = ([], within phase .number (run ++ [b])) := by
        simp [Reading.offer, Reading.take, within, machine, State.step, hdigit]
      rw [hoffer, List.takeWhile_cons_of_pos hdigit, List.dropWhile_cons_of_pos hdigit]
      refine (ih (run ++ [b])).trans ?_
      simp only [List.append_assoc, List.singleton_append]
    · rw [List.takeWhile_cons_of_neg hdigit, List.dropWhile_cons_of_neg hdigit, List.append_nil]
      dsimp only
      by_cases hcolon : b = ':'.toUInt8
      · have hoffer : (within phase .number run).offer b
            = ([.token .lineNum run false, .token .separator [b] false],
                within next .idle []) := by
          rw [hcolon]
          rcases h with ⟨rfl, rfl⟩ | ⟨rfl, rfl⟩ <;> rfl
        rw [hoffer, if_pos hcolon]
        rfl
      · have hoffer : (within phase .number run).offer b
            = ([], within phase .error (run ++ [b])) := by
          simp [Reading.offer, Reading.take, within, machine, State.step, hdigit, hcolon]
        rw [hoffer, line_error, if_neg hcolon, List.append_assoc]
        rfl

/-- What is behind all numbers is the message. -/
theorem line_fieldTokens_zero (text : Bytes) :
    ((within .message .idle []).line text).1 = fieldTokens 0 text := by
  cases text with
  | nil => rfl
  | cons b rest =>
    have hoffer : (within .message .idle []).offer b = ([], within .message .message [b]) := rfl
    rw [Reading.line, hoffer, line_message]
    rfl

/-- Where a number may stand, there is one or the message. -/
theorem line_fieldTokens_succ {phase next : Phase} (h : IsNumbered phase next) {count : Nat}
    (hnext : ∀ text, ((within next .idle []).line text).1 = fieldTokens count text)
    (text : Bytes) :
    ((within phase .idle []).line text).1 = fieldTokens (count + 1) text := by
  cases text with
  | nil => rfl
  | cons b rest =>
    rw [Reading.line, fieldTokens]
    by_cases hdigit : Octet.isDigit b = true
    · have hoffer : (within phase .idle []).offer b = ([], within phase .number [b]) := by
        rcases h with ⟨rfl, rfl⟩ | ⟨rfl, rfl⟩ <;>
          simp [Reading.offer, Reading.take, within, machine, State.step, Phase.lead,
            Phase.afterSeparator?, hdigit]
      rw [hoffer, List.takeWhile_cons_of_pos hdigit, List.dropWhile_cons_of_pos hdigit]
      refine (line_number h [b] rest).trans ?_
      simp only [hnext, List.singleton_append, List.isEmpty_cons, Bool.false_eq_true, if_false]
      rfl
    · have hoffer : (within phase .idle []).offer b = ([], within phase .message [b]) := by
        rcases h with ⟨rfl, rfl⟩ | ⟨rfl, rfl⟩ <;>
          simp [Reading.offer, Reading.take, within, machine, State.step, Phase.lead,
            Phase.afterSeparator?, hdigit]
      rw [hoffer, line_message, List.takeWhile_cons_of_neg hdigit]
      rfl

/-- Behind the name of a file come at most two numbers. -/
theorem line_fieldTokens_two (text : Bytes) :
    ((within .line .idle []).line text).1 = fieldTokens 2 text := by
  have hcolumn := line_fieldTokens_succ (.inr ⟨rfl, rfl⟩) line_fieldTokens_zero
  exact line_fieldTokens_succ (.inl ⟨rfl, rfl⟩) hcolumn text

/-- The name of a file goes on up to the first colon, and is an error if there is none. -/
theorem line_filename (name text : Bytes) :
    ((within .start .filename name).line text).1
      = match text.dropWhile isNameOctet with
        | [] => [.token .error (name ++ text) false]
        | colon :: rest =>
          .token .filename (name ++ text.takeWhile isNameOctet) false
            :: .token .separator [colon] false :: fieldTokens 2 rest := by
  induction text generalizing name with
  | nil =>
    rw [List.append_nil]
    rfl
  | cons b rest ih =>
    rw [Reading.line]
    by_cases hcolon : b = ':'.toUInt8
    · have hoffer : (within .start .filename name).offer b
          = ([.token .filename name false, .token .separator [b] false],
              within .line .idle []) := by
        rw [hcolon]
        rfl
      have hend : ¬isNameOctet b = true := by simpa [isNameOctet] using hcolon
      rw [hoffer, line_fieldTokens_two, List.takeWhile_cons_of_neg hend,
        List.dropWhile_cons_of_neg hend, List.append_nil]
      rfl
    · have hoffer : (within .start .filename name).offer b
          = ([], within .start .filename (name ++ [b])) := by
        simp [Reading.offer, Reading.take, within, machine, State.step, hcolon]
      have hgo : isNameOctet b = true := by simpa [isNameOctet] using hcolon
      rw [hoffer, List.takeWhile_cons_of_pos hgo, List.dropWhile_cons_of_pos hgo]
      refine (ih (name ++ [b])).trans ?_
      simp only [List.append_assoc, List.singleton_append]

/-- A line comes to its tokens. -/
theorem line_eq (text : Bytes) : ((within .start .idle []).line text).1 = lineTokens text := by
  cases text with
  | nil => rfl
  | cons b rest =>
    rw [Reading.line, lineTokens]
    by_cases hblank : Octet.isSpaceOrTab b = true
    · have hoffer : (within .start .idle []).offer b = ([], within .start .message [b]) := by
        simp [Reading.offer, Reading.take, within, machine, State.step, Phase.lead,
          Phase.afterSeparator?, hblank]
      rw [hoffer, line_message, if_pos hblank]
      rfl
    · have hoffer : (within .start .idle []).offer b = ([], within .start .filename [b]) := by
        simp [Reading.offer, Reading.take, within, machine, State.step, Phase.lead,
          Phase.afterSeparator?, hblank]
      rw [hoffer, if_neg hblank]
      exact line_filename [b] rest

/-! ### Lines -/

/-- The next line begins as the first one does. -/
theorem newline_line (text : Bytes) :
    machine.newline ((within .start .idle []).line text).2 = ⟨.start, .idle⟩ := by
  have hidle : (((within .start .idle []).line text).2.token == .idle) = true :=
    Reading.isIdle_line (m := machine) (fun _ => rfl) _ text
  show State.mk .start _ = _
  rw [beq_iff_eq.mp hidle]

/-- Compiler output is read line by line. -/
theorem eventsFrom_line {text : Bytes} (htext : text.IsLine)
    (hback : text.getLast? ≠ some Octet.backslash) {ending rest : Bytes}
    (hend : Reading.EndsLine ending rest) :
    eventsFrom (text ++ (ending ++ rest))
      = lineTokens text ++ .newline ending :: eventsFrom rest := by
  rw [eventsFrom, Reading.events_of_separates rfl htext (fun _ => hback) hend, line_eq,
    newline_line]
  rfl

/-- A last line without an end. -/
theorem eventsFrom_lastLine {text : Bytes} (htext : text.IsLine) :
    eventsFrom text = lineTokens text := by
  rw [eventsFrom, Reading.events_lastLine (fun _ => rfl) rfl htext, line_eq]

end MarkupFeed.Diagnostics
