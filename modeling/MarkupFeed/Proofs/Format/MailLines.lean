import Mathlib.Data.List.Forall2
import Mathlib.Data.List.TakeWhile
import MarkupFeed.Proofs.Format.Mail
import MarkupFeed.Proofs.Format.Steady
import MarkupFeed.Proofs.Tokenizer.ByLine
import MarkupFeed.Proofs.Tokenizer.Chunking
import MarkupFeed.Proofs.Tokenizer.Ending

/-!
# The lines of a mail input, and the mode each starts in

The mode at the start of a line is what the lines before it come to (`Mail.withModes`,
`Mail.modeAfter`), and the tokens of the line are those that `Mail.lineTokens` gives
(`Mail.byLine_eventsFrom`). `Mail.lines_read` says so of a tokenizer, whatever buffers it is fed,
and that the mode it is in after each of them is that of the line it is in. `Mail.field_read` says
what becomes of a header line with a proper field name.
-/

namespace MarkupFeed.Mail

/-! ### The state at the end of an input -/

/-- The mode after the lines of an input. -/
def modeAfter (mode : Mode) (input : Bytes) : Mode := input.lines.foldl lineMode mode

/-- A reading of an input ends in the mode after its lines, and at the start of a line if the last
one is complete. -/
theorem last_lineStart (mode : Mode) (input : Bytes) :
    (lineStart mode).last input = ⟨modeAfter mode input, decide input.EndsLines, .idle⟩ := by
  induction input using Bytes.line_induction generalizing mode with
  | last text htext =>
    rw [Reading.last_lastLine (fun _ => rfl) rfl htext, line_lineStart_eq, modeAfter,
      Bytes.lines_lastLine htext]
    cases text with
    | nil => rfl
    | cons b text =>
      have hopen : decide (Bytes.EndsLines (b :: text)) = false :=
        decide_eq_false fun h => absurd (h.eq_nil htext) (List.cons_ne_nil _ _)
      rw [hopen]
      rfl
  | line text ending rest htext hend ih =>
    have hnext : machine.newline ((lineStart mode).line text).2
        = ⟨lineMode mode text, true, .idle⟩ := (line_lineStart mode text).2
    rw [Reading.last_of_separates rfl htext (Machine.separates_of_eq_false rfl text) hend, hnext]
    refine (ih (lineMode mode text)).trans ?_
    rw [modeAfter, modeAfter, Bytes.lines_lineEnd htext hend,
      decide_eq_decide.mpr (Bytes.endsLines_lineEnd_iff hend.1 rest)]
    rfl

/-! ### The tokens of a line -/

/-- A token in one piece. -/
def IsWholeToken (event : Event Kind) : Prop := ∃ kind text, event = .token kind text false

theorem isWholeToken_bodyTokens (text : Bytes) : ∀ event ∈ bodyTokens text, IsWholeToken event := by
  induction text with
  | nil => exact List.forall_mem_nil _
  | cons b rest ih =>
    rw [bodyTokens]
    split
    · exact List.forall_mem_cons.mpr ⟨⟨_, _, rfl⟩, ih⟩
    · exact List.forall_mem_singleton.mpr ⟨_, _, rfl⟩

theorem isWholeToken_nameTokens (kind : Kind) (name text : Bytes) :
    ∀ event ∈ nameTokens kind name text, IsWholeToken event := by
  induction text generalizing kind name with
  | nil => exact List.forall_mem_singleton.mpr ⟨_, _, rfl⟩
  | cons b rest ih =>
    rw [nameTokens]
    split
    · exact List.forall_mem_cons.mpr
        ⟨⟨_, _, rfl⟩, List.forall_mem_cons.mpr ⟨⟨_, _, rfl⟩, isWholeToken_bodyTokens rest⟩⟩
    · exact ih _ _

theorem isWholeToken_lineTokens (mode : Mode) (line : Bytes) :
    ∀ event ∈ lineTokens mode line, IsWholeToken event := by
  cases line with
  | nil => exact List.forall_mem_nil _
  | cons b rest =>
    have hone : ∀ kind text, ∀ event ∈ [(.token kind text false : Event Kind)],
        IsWholeToken event := fun kind text => List.forall_mem_singleton.mpr ⟨kind, text, rfl⟩
    rw [lineTokens_cons]
    split
    · exact hone _ _
    · cases mode with
      | body => exact hone _ _
      | headers =>
        dsimp only
        split
        · exact hone _ _
        · exact isWholeToken_nameTokens _ _ _

theorem nameTokens_ne_nil (kind : Kind) (name text : Bytes) : nameTokens kind name text ≠ [] := by
  induction text generalizing kind name with
  | nil => exact List.cons_ne_nil _ _
  | cons b rest ih =>
    rw [nameTokens]
    split
    · exact List.cons_ne_nil _ _
    · exact ih _ _

/-- A line with octets has tokens. -/
theorem isEmpty_lineTokens (mode : Mode) (line : Bytes) :
    (lineTokens mode line).isEmpty = line.isEmpty := by
  cases line with
  | nil => rfl
  | cons b rest =>
    rw [lineTokens_cons]
    split
    · rfl
    · cases mode with
      | body => rfl
      | headers =>
        dsimp only
        split
        · rfl
        · exact List.isEmpty_eq_false_iff.mpr (nameTokens_ne_nil _ _ _)

theorem isNewline_lineTokens (mode : Mode) (line : Bytes) :
    ∀ event ∈ lineTokens mode line, event.isNewline = false := by
  intro event hevent
  obtain ⟨kind, text, rfl⟩ := isWholeToken_lineTokens mode line event hevent
  rfl

theorem lineTokens_break (mode : Mode) {line : Bytes} (h : breakPrefix <+: line) :
    lineTokens mode line = [.token .messageBreak line false] := by
  have hbreak : isBreak line = true := List.isPrefixOf_iff_prefix.mpr h
  cases line with
  | nil => exact absurd hbreak (by decide)
  | cons b rest => rw [lineTokens_cons, hbreak, if_pos rfl]

/-- What stands in place of a field name goes up to the colon, and is one if it has only octets of
field names. -/
theorem nameTokens_eq (kind : Kind) (name text : Bytes) :
    nameTokens kind name text
      = .token (if (text.dropWhile isFieldNameOctet).head? = some ':'.toUInt8 then kind else .error)
          (name ++ text.takeWhile (· != ':'.toUInt8)) false
        :: bodyTokens (text.dropWhile (· != ':'.toUInt8)) := by
  induction text generalizing kind name with
  | nil => simp [nameTokens, bodyTokens]
  | cons b rest ih =>
    by_cases hb : b = ':'.toUInt8
    · have hname : isFieldNameOctet ':'.toUInt8 = false := by decide
      simp [nameTokens, bodyTokens, hname, hb]
    · cases hname : isFieldNameOctet b <;> simp [nameTokens, ih, hb, hname]

/-- Without a colon, what begins in place of a field name is an error up to the end of the line. -/
theorem nameTokens_of_not_mem {text : Bytes} (h : ':'.toUInt8 ∉ text) (kind : Kind) (name : Bytes) :
    nameTokens kind name text = [.token .error (name ++ text) false] := by
  have hne : ∀ b ∈ text, (b != ':'.toUInt8) = true := by
    intro b hb
    exact bne_iff_ne.mpr fun heq => h (heq ▸ hb)
  have hhead : (text.dropWhile isFieldNameOctet).head? ≠ some ':'.toUInt8 :=
    fun hcolon => h ((List.dropWhile_sublist _).subset (List.mem_of_head? hcolon))
  rw [nameTokens_eq, if_neg hhead, List.takeWhile_eq_self_iff.mpr hne,
    List.dropWhile_eq_nil_iff.mpr hne]
  rfl

/-- Whether a line of a header goes on the field before it. -/
def isFolded (line : Bytes) : Bool := line.head?.any Octet.isSpaceOrTab

theorem isBreak_of_isFolded {line : Bytes} (h : isFolded line = true) : isBreak line = false := by
  rw [Bool.eq_false_iff]
  intro hbreak
  obtain ⟨more, rfl⟩ := List.isPrefixOf_iff_prefix.mp hbreak
  have hfirst : isFolded (breakPrefix ++ more) = false := rfl
  exact absurd h (by simp [hfirst])

/-- What the tokens of a line are, given the mode it starts in. -/
structure IsReadAs (mode : Mode) (line : Bytes) (tokens : List (Event Kind)) : Prop where
  empty : line = [] → tokens = []
  messageBreak : breakPrefix <+: line → tokens = [.token .messageBreak line false]
  messageBody : mode = .body → line ≠ [] → ¬ breakPrefix <+: line →
    tokens = [.token .messageBody line false]
  fieldBody : mode = .headers → isFolded line = true → tokens = [.token .fieldBody line false]
  error : mode = .headers → line ≠ [] → ¬ breakPrefix <+: line → isFolded line = false →
    ':'.toUInt8 ∉ line → tokens = [.token .error line false]

/-- A line that separates no messages, by its first octet. -/
theorem lineTokens_of_not_isBreak {b : UInt8} {rest : Bytes} (h : isBreak (b :: rest) = false)
    (mode : Mode) :
    lineTokens mode (b :: rest)
      = match mode with
        | .body => [.token .messageBody (b :: rest) false]
        | .headers =>
          if Octet.isSpaceOrTab b then [.token .fieldBody (b :: rest) false]
          else nameTokens (if isFieldNameOctet b then .fieldName else .error) [b] rest := by
  rw [lineTokens_cons, h]
  exact if_neg Bool.false_ne_true

theorem isReadAs_lineTokens (mode : Mode) (line : Bytes) :
    IsReadAs mode line (lineTokens mode line) where
  empty h := by rw [h]; rfl
  messageBreak := lineTokens_break mode
  messageBody := by
    rintro rfl hne hbreak
    obtain ⟨b, rest, rfl⟩ := List.exists_cons_of_ne_nil hne
    rw [lineTokens_of_not_isBreak (Bool.eq_false_iff.mpr (mt List.isPrefixOf_iff_prefix.mp hbreak))]
  fieldBody := by
    rintro rfl hfolded
    have hbreak := isBreak_of_isFolded hfolded
    cases line with
    | nil => exact absurd hfolded (by decide)
    | cons b rest =>
      have hblank : Octet.isSpaceOrTab b = true := hfolded
      rw [lineTokens_of_not_isBreak hbreak]
      simp only [hblank, if_true]
  error := by
    rintro rfl hne hbreak hfolded hcolon
    obtain ⟨b, rest, rfl⟩ := List.exists_cons_of_ne_nil hne
    have hblank : Octet.isSpaceOrTab b = false := hfolded
    rw [List.mem_cons, not_or] at hcolon
    rw [lineTokens_of_not_isBreak (Bool.eq_false_iff.mpr (mt List.isPrefixOf_iff_prefix.mp hbreak))]
    simp only [hblank, if_neg Bool.false_ne_true]
    exact nameTokens_of_not_mem hcolon.2 _ _

/-! ### Line by line -/

/-- Lines, each with the mode it starts in. -/
def withModes (mode : Mode) : List Bytes → List (Mode × Bytes)
  | [] => []
  | line :: rest => (mode, line) :: withModes (lineMode mode line) rest

/-- The events of an input are the tokens of its lines, between their ends. -/
theorem byLine_eventsFrom (mode : Mode) (input : Bytes) :
    Event.byLine (eventsFrom mode input)
      = (withModes mode input.lines).map fun line => lineTokens line.1 line.2 := by
  induction input using Bytes.line_induction generalizing mode with
  | last text htext =>
    rw [eventsFrom_lastLine mode htext, Event.byLine_tokens (isNewline_lineTokens mode text),
      isEmpty_lineTokens, Bytes.lines_lastLine htext]
    cases text <;> rfl
  | line text ending rest htext hend ih =>
    rw [eventsFrom_lineEnd mode htext hend, Event.byLine_newline (isNewline_lineTokens mode text),
      ih, Bytes.lines_lineEnd htext hend]
    rfl

/-- An input whose lines are complete is read by itself, and what follows it from the mode behind
it on. -/
theorem eventsFrom_append_of_endsLines {front rest : Bytes} (hfront : front.EndsLines)
    (hcut : front.CutsNoLineEnd rest) (mode : Mode) :
    eventsFrom mode (front ++ rest)
      = eventsFrom mode front ++ eventsFrom (modeAfter mode front) rest := by
  induction front using Bytes.line_induction generalizing mode with
  | last text htext =>
    rw [hfront.eq_nil htext]
    rfl
  | line text ending later htext hend ih =>
    rw [List.append_assoc, List.append_assoc,
      eventsFrom_lineEnd mode htext (hcut.of_append.endsLine hend),
      eventsFrom_lineEnd mode htext hend, ih hfront.of_append.of_append hcut.of_append.of_append,
      List.append_assoc, modeAfter, modeAfter, Bytes.lines_lineEnd htext hend]
    rfl

/-! ### The mode of a tokenizer -/

/-- Complete lines leave the machine at the start of a line, in the mode behind them. -/
theorem stateAfterLines_eq (mode : Mode) (input : Bytes) :
    Machine.stateAfterLines (m := machine) ⟨mode, true, .idle⟩ input
      = ⟨modeAfter mode input, true, .idle⟩ := by
  unfold Machine.stateAfterLines modeAfter
  induction input.lines generalizing mode with
  | nil => rfl
  | cons text rest ih =>
    exact (congrArg (rest.foldl fun s line => machine.newline (Reading.line ⟨s, [], .none⟩ line).2)
      (line_lineStart mode text).2).trans (ih _)

/-- The state behind a step, with a token that it ends closed. -/
def State.behind : Step State → State
  | .shift next => next
  | .accept next | .reject next => next.finish.2

theorem State.mode_behind_ite {c : Prop} [Decidable c] {a b : Step State} {mode : Mode}
    (ha : (behind a).mode = mode) (hb : (behind b).mode = mode) :
    (behind (if c then a else b)).mode = mode := by
  split
  · exact ha
  · exact hb

/-- Only a line end and the end of a message break change the mode. -/
theorem State.mode_behind (s : State) (b : UInt8) : (behind (s.step b)).mode = s.mode := by
  obtain ⟨mode, atStart, token⟩ := s
  have hname : ∀ token, (behind (inFieldName ⟨mode, atStart, token⟩ b)).mode = mode :=
    fun _ => mode_behind_ite rfl (mode_behind_ite rfl rfl)
  cases token with
  | idle =>
    refine mode_behind_ite rfl ?_
    cases mode with
    | body => rfl
    | headers =>
      exact mode_behind_ite (mode_behind_ite rfl (mode_behind_ite rfl rfl))
        (mode_behind_ite rfl rfl)
  | separator rest =>
    cases rest with
    | nil => rfl
    | cons c rest => exact mode_behind_ite rfl (mode_behind_ite (hname _) rfl)
  | fieldName => exact hname _
  | error => exact mode_behind_ite rfl rfl
  | complete kind => cases mode <;> rfl
  | breakLine | fieldBody | body => rfl

theorem mode_take (r : Reading machine) (b : UInt8) : (r.take b).2.state.mode = r.state.mode := by
  have htake : (r.take b).2.state = State.behind (State.step r.state b) := by
    cases hstep : State.step r.state b <;>
      simp only [Reading.take, machine, hstep, State.behind]
  exact (congrArg State.mode htake).trans (State.mode_behind r.state b)

theorem mode_offer (r : Reading machine) (b : UInt8) :
    (r.offer b).2.state.mode = r.state.mode := by
  rw [Reading.offer]
  split
  · next next hidle hstep =>
    have hnext : next.finish.2.mode = r.state.mode := by
      have hbehind := State.mode_behind r.state b
      rwa [show State.step r.state b = .reject next from hstep] at hbehind
    exact (mode_take _ b).trans hnext
  · exact mode_take r b

theorem mode_offerAll (r : Reading machine) (text : Bytes) :
    (r.offerAll text).2.state.mode = r.state.mode := by
  induction text generalizing r with
  | nil => rfl
  | cons b rest ih => exact (ih _).trans (mode_offer r b)

/-- In the middle of a line, a tokenizer is in the mode that the line began in. -/
theorem exists_inLine_mode (buffers : List Bytes) :
    let fed := ((Tokenizer.fresh machine).feedAll buffers).1
    ∃ front part : Bytes, buffers.flatten = front ++ (part ++ fed.held.toList) ∧ front.EndsLines
      ∧ part.IsLine ∧ machine.mode fed.state = some (modeAfter .headers front == .body) := by
  intro fed
  obtain ⟨front, part, hinput, hfront, hpart, hstate⟩ :=
    Tokenizer.exists_inLine (m := machine) rfl buffers
  refine ⟨front, part, hinput, hfront, hpart, ?_⟩
  have hmode : fed.state.mode = modeAfter .headers front := by
    rw [show fed.state = _ from hstate, mode_offerAll]
    exact congrArg State.mode (stateAfterLines_eq .headers front)
  exact congrArg (fun mode => some (mode == .body)) hmode

/-- The tokens that a tokenizer reports of each line, with the pieces of each token merged. -/
def tokensByLine (buffers : List Bytes) : List (List (Event Kind)) :=
  Event.byLine (Event.merged (machine.events buffers))

/-- Whatever buffers an input comes in, it is the tokens of its lines that are reported. -/
theorem tokensByLine_eq (buffers : List Bytes) :
    tokensByLine buffers
      = (withModes .headers (Bytes.lines buffers.flatten)).map
          fun line => lineTokens line.1 line.2 :=
  (congrArg Event.byLine (Machine.merged_events isSteady_machine buffers)).trans
    (byLine_eventsFrom .headers buffers.flatten)

/-- A mail input is read line by line, each line in the mode that the lines before it lead to, and
a tokenizer that has read the beginning of an input is in the mode of the line that it is in. Behind
the input, it is in the mode after the last line. -/
theorem lines_read (buffers : List Bytes) :
    List.Forall₂ (fun line tokens => IsReadAs line.1 line.2 tokens)
        (withModes .headers (Bytes.lines buffers.flatten)) (tokensByLine buffers)
      ∧ (let fed := ((Tokenizer.fresh machine).feedAll buffers).1
        ∃ front part : Bytes, buffers.flatten = front ++ (part ++ fed.held.toList)
          ∧ front.EndsLines ∧ part.IsLine
          ∧ machine.mode fed.state = some (modeAfter .headers front == .body))
      ∧ machine.mode ((Tokenizer.fresh machine).finish buffers).1.state
        = some (modeAfter .headers buffers.flatten == .body) := by
  refine ⟨?_, exists_inLine_mode buffers, ?_⟩
  · rw [tokensByLine_eq, List.forall₂_map_right_iff, List.forall₂_same]
    exact fun line _ => isReadAs_lineTokens line.1 line.2
  · have hlast := last_lineStart .headers buffers.flatten
    rw [Tokenizer.finish_fst]
    exact congrArg (fun state => machine.mode state) hlast

/-! ### Header lines -/

/-- Behind the colon of a field name, every further colon is a token of its own up to the first
other octet, and the field body is what is left. -/
theorem bodyTokens_colons (n : Nat) {text : Bytes} (htext : text.head? ≠ some ':'.toUInt8) :
    bodyTokens (List.replicate n ':'.toUInt8 ++ text)
      = List.replicate n (.token .colon [':'.toUInt8] false)
        ++ if text.isEmpty then [] else [.token .fieldBody text false] := by
  induction n with
  | zero =>
    cases text with
    | nil => rfl
    | cons b rest =>
      have hb : b ≠ ':'.toUInt8 := fun h => htext (congrArg some h)
      exact if_neg hb
  | succ n ih =>
    rw [List.replicate_succ, List.cons_append, bodyTokens, if_pos rfl, ih, List.replicate_succ]
    rfl

/-- A header line with a proper field name is split behind the name. All the colons there are tokens
of their own, and what follows them is the field body. -/
theorem field_read (buffers : List Bytes) {i : Nat} {name text : Bytes} (n : Nat) (hne : name ≠ [])
    (hname : ∀ b ∈ name, isFieldNameOctet b = true) (htext : text.head? ≠ some ':'.toUInt8)
    (hline : (withModes .headers (Bytes.lines buffers.flatten))[i]?
      = some (.headers, name ++ (List.replicate (n + 1) ':'.toUInt8 ++ text))) :
    (tokensByLine buffers)[i]?
      = some (.token .fieldName name false
        :: (List.replicate (n + 1) (.token .colon [':'.toUInt8] false)
          ++ if text.isEmpty then [] else [.token .fieldBody text false])) := by
  rw [tokensByLine_eq, List.getElem?_map, hline, List.replicate_succ, List.cons_append]
  exact congrArg some ((lineTokens_header hne hname _).trans
    (congrArg (.token .fieldName name false :: .token .colon [':'.toUInt8] false :: ·)
      (bodyTokens_colons n htext)))

/-- Two colons, in a field of the second line. -/
theorem field_read_two_colons :
    let buffers := [Bytes.ascii "From x\nSubject:", Bytes.ascii ":b\n\ny"]
    let name := Bytes.ascii "Subject"
    let text := Bytes.ascii "b"
    name ≠ [] ∧ (∀ b ∈ name, isFieldNameOctet b = true) ∧ text.head? ≠ some ':'.toUInt8
      ∧ (withModes .headers (Bytes.lines buffers.flatten))[1]?
        = some (.headers, name ++ (List.replicate (1 + 1) ':'.toUInt8 ++ text))
      ∧ (tokensByLine buffers)[1]?
        = some [.token .fieldName name false, .token .colon [':'.toUInt8] false,
          .token .colon [':'.toUInt8] false, .token .fieldBody text false] := by
  have hne : Bytes.ascii "Subject" ≠ [] := by decide
  have hname : ∀ b ∈ Bytes.ascii "Subject", isFieldNameOctet b = true := by decide
  have htext : (Bytes.ascii "b").head? ≠ some ':'.toUInt8 := by decide
  have hline : (withModes .headers (Bytes.lines [Bytes.ascii "From x\nSubject:",
      Bytes.ascii ":b\n\ny"].flatten))[1]?
        = some (.headers, Bytes.ascii "Subject"
          ++ (List.replicate (1 + 1) ':'.toUInt8 ++ Bytes.ascii "b")) := by
    decide +kernel
  exact ⟨hne, hname, htext, hline, field_read _ 1 hne hname htext hline⟩

/-- A colon that the text behind the first one begins with is no part of the field body. -/
theorem colon_apart_from_fieldBody :
    (withModes .headers (Bytes.lines (Bytes.ascii "a::b")))[0]?
        = some (.headers, Bytes.ascii "a" ++ ':'.toUInt8 :: Bytes.ascii ":b")
      ∧ (tokensByLine [Bytes.ascii "a::b"])[0]?
        ≠ some [.token .fieldName (Bytes.ascii "a") false, .token .colon [':'.toUInt8] false,
          .token .fieldBody (Bytes.ascii ":b") false] := by
  decide +kernel

end MarkupFeed.Mail
