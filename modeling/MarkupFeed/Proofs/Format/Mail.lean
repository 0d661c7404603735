import MarkupFeed.Format.Mail
import MarkupFeed.Proofs.Tokenizer.Lines

/-!
# Mail messages are read line by line

`lineTokens` and `lineMode` say of a line, given the mode at its start, what its tokens are and
which mode the next line starts in. Main statement: `eventsFrom_lineEnd`.
-/

namespace MarkupFeed.Mail

/-! ### What a line comes to -/

/-- The octets a message break begins with. -/
def breakPrefix : Bytes := Bytes.ascii "From "

/-- Whether a line separates two messages. -/
def isBreak (line : Bytes) : Bool := breakPrefix.isPrefixOf line

/-- The tokens behind the colon of a header line: further colons, up to the field body. -/
def bodyTokens : Bytes → List (Event Kind)
  | [] => []
  | b :: rest =>
    if b = ':'.toUInt8 then .token .colon [b] false :: bodyTokens rest
    else [.token .fieldBody (b :: rest) false]

/-- The tokens of a header line after octets of its name, which is a field name or an error so
far. -/
def nameTokens (kind : Kind) (name : Bytes) : Bytes → List (Event Kind)
  | [] => [.token .error name false]
  | b :: rest =>
    if b = ':'.toUInt8 then .token kind name false :: .token .colon [b] false :: bodyTokens rest
    else nameTokens (if isFieldNameOctet b then kind else .error) (name ++ [b]) rest

/-- The tokens of a line that begins like a message break and is none. -/
def otherTokens (mode : Mode) (start rest : Bytes) : List (Event Kind) :=
  match mode with
  | .body => [.token .messageBody (start ++ rest) false]
  | .headers => nameTokens .fieldName start rest

/-- The tokens of a line. -/
def lineTokens (mode : Mode) (line : Bytes) : List (Event Kind) :=
  match line with
  | [] => []
  | b :: rest =>
    if isBreak line then [.token .messageBreak line false]
    else
      match mode with
      | .body => [.token .messageBody line false]
      | .headers =>
        if Octet.isSpaceOrTab b then [.token .fieldBody line false]
        else nameTokens (if isFieldNameOctet b then .fieldName else .error) [b] rest

theorem lineTokens_cons (mode : Mode) (b : UInt8) (rest : Bytes) :
    lineTokens mode (b :: rest) =
      if isBreak (b :: rest) then [.token .messageBreak (b :: rest) false]
      else
        match mode with
        | .body => [.token .messageBody (b :: rest) false]
        | .headers =>
          if Octet.isSpaceOrTab b then [.token .fieldBody (b :: rest) false]
          else nameTokens (if isFieldNameOctet b then .fieldName else .error) [b] rest :=
  rfl

/-- The mode after a line. -/
def lineMode (mode : Mode) (line : Bytes) : Mode :=
  if line.isEmpty then .body else if isBreak line then .headers else mode

/-! ### The machine on a line -/

/-- A reading inside a line. -/
def within (mode : Mode) (token : Token) (run : Bytes) : Reading machine :=
  ⟨⟨mode, false, token⟩, run, .none⟩

/-- A reading at the start of a line. -/
def lineStart (mode : Mode) : Reading machine := ⟨⟨mode, true, .idle⟩, [], .none⟩

/-- The merged events of an input that begins with a line. -/
def eventsFrom (mode : Mode) (input : Bytes) : List (Event Kind) := (lineStart mode).events input

/-- A token that goes on to the end of its line. -/
theorem line_within {mode : Mode} {token : Token}
    (h : token = .breakLine ∨ token = .fieldBody ∨ token = .body) (run text : Bytes) :
    (within mode token run).line text
      = ([.token (State.finish ⟨mode, false, token⟩).1 (run ++ text) false],
          (State.finish ⟨mode, false, token⟩).2) := by
  rcases h with rfl | rfl | rfl <;> exact Reading.line_of_shift rfl rfl (fun _ => rfl) run text

/-- The rest of a line behind a colon. -/
theorem line_bodyTokens (text : Bytes) :
    (within .headers .idle []).line text = (bodyTokens text, ⟨.headers, false, .idle⟩) := by
  induction text with
  | nil => rfl
  | cons b rest ih =>
    rw [Reading.line, bodyTokens]
    by_cases hb : b = ':'.toUInt8
    · have hoffer : (within .headers .idle []).offer b
          = ([.token .colon [b] false], within .headers .idle []) := by
        rw [hb]
        rfl
      rw [hoffer, ih, if_pos hb]
      rfl
    · have hoffer : (within .headers .idle []).offer b = ([], within .headers .fieldBody [b]) := by
        simp [Reading.offer, Reading.take, within, machine, State.step, State.lead, hb]
      rw [hoffer, line_within (.inr (.inl rfl)), if_neg hb]
      rfl

/-- An error in place of a field name goes on up to the colon. -/
theorem line_error (name text : Bytes) :
    (within .headers .error name).line text
      = (nameTokens .error name text, ⟨.headers, false, .idle⟩) := by
  induction text generalizing name with
  | nil => rfl
  | cons b rest ih =>
    rw [Reading.line, nameTokens]
    by_cases hb : b = ':'.toUInt8
    · have hoffer : (within .headers .error name).offer b
          = ([.token .error name false, .token .colon [b] false], within .headers .idle []) := by
        rw [hb]
        rfl
      rw [hoffer, line_bodyTokens, if_pos hb]
      rfl
    · have hoffer : (within .headers .error name).offer b
          = ([], within .headers .error (name ++ [b])) := by
        simp [Reading.offer, Reading.take, within, machine, State.step, hb]
      rw [hoffer, ih, if_neg hb, ite_self]
      rfl

/-- A field name goes on up to the colon, and becomes an error on the way if it has another octet
than those of field names. -/
theorem line_fieldName (name text : Bytes) :
    (within .headers .fieldName name).line text
      = (nameTokens .fieldName name text, ⟨.headers, false, .idle⟩) := by
  induction text generalizing name with
  | nil => rfl
  | cons b rest ih =>
    rw [Reading.line, nameTokens]
    by_cases hb : b = ':'.toUInt8
    · have hoffer : (within .headers .fieldName name).offer b
          = ([.token .fieldName name false, .token .colon [b] false],
              within .headers .idle []) := by
        rw [hb]
        rfl
      rw [hoffer, line_bodyTokens, if_pos hb]
      rfl
    · have hoffer : (within .headers .fieldName name).offer b
          = ([], within .headers (if isFieldNameOctet b then .fieldName else .error)
              (name ++ [b])) := by
        cases hname : isFieldNameOctet b <;>
          simp [Reading.offer, Reading.take, within, machine, State.step, State.inFieldName, hb,
            hname]
      rw [hoffer, if_neg hb]
      cases isFieldNameOctet b with
      | false => exact congrArg (fun r => ([] ++ r.1, r.2)) (line_error _ rest)
      | true => exact congrArg (fun r => ([] ++ r.1, r.2)) (ih _)

theorem isFieldNameOctet_ne_colon {b : UInt8} (h : isFieldNameOctet b = true) :
    b ≠ ':'.toUInt8 := by
  rintro rfl
  exact absurd h (by decide)

/-- An octet of field names does not change what a line is. -/
theorem otherTokens_cons {b : UInt8} (hb : isFieldNameOctet b = true) (mode : Mode)
    (start rest : Bytes) :
    otherTokens mode start (b :: rest) = otherTokens mode (start ++ [b]) rest := by
  cases mode with
  | headers =>
    rw [otherTokens, nameTokens, if_neg (isFieldNameOctet_ne_colon hb), hb]
    rfl
  | body =>
    rw [otherTokens, otherTokens, List.append_assoc]
    rfl

/-- Only the state between tokens and what it makes of the octet count. -/
theorem offer_congr {mode : Mode} {token other : Token} {b : UInt8} (run : Bytes)
    (hidle : (token == .idle) = (other == .idle))
    (hstep : State.step ⟨mode, false, token⟩ b = State.step ⟨mode, false, other⟩ b) :
    (within mode token run).offer b = (within mode other run).offer b := by
  rw [Reading.offer, Reading.offer, Reading.take, Reading.take]
  simp only [within, machine, hidle, hstep]

/-- A line that has begun like a message break is one if it goes on like one. Else it is what it
would have been without the likeness. -/
theorem line_separator {rest : List Char} (hne : rest ≠ [])
    (hname : ∀ c ∈ rest.dropLast, isFieldNameOctet c.toUInt8 = true) (mode : Mode)
    (run text : Bytes) :
    (within mode (.separator rest) run).line text
      = if (rest.map Char.toUInt8).isPrefixOf text then
          ([.token .messageBreak (run ++ text) false], ⟨.headers, false, .idle⟩)
        else (otherTokens mode run text, ⟨mode, false, .idle⟩) := by
  induction rest generalizing run text with
  | nil => exact absurd rfl hne
  | cons c rest ih =>
    cases text with
    | nil =>
      -- a line that ends too early is no message break
      cases mode
      · rfl
      · rw [otherTokens, List.append_nil]
        rfl
    | cons b text =>
      rw [Reading.line, List.map_cons, List.isPrefixOf]
      by_cases hb : b = c.toUInt8
      · have hoffer : (within mode (.separator (c :: rest)) run).offer b
            = ([], within mode (if rest.isEmpty then .breakLine else .separator rest)
                (run ++ [b])) := by
          simp [Reading.offer, Reading.take, within, machine, State.step, hb]
        rw [hoffer, ← hb, beq_self_eq_true, Bool.true_and]
        by_cases hrest : rest = []
        · -- the likeness is complete
          rw [hrest]
          simp only [List.isEmpty_nil, if_true, List.map_nil, List.isPrefixOf]
          rw [line_within (.inl rfl), List.append_assoc]
          rfl
        · have hempty : rest.isEmpty = false := by simpa using hrest
          rw [List.dropLast_cons_of_ne_nil hrest, List.forall_mem_cons] at hname
          rw [hempty, otherTokens_cons (by rw [hb]; exact hname.1)]
          have hline := ih hrest hname.2 (run ++ [b]) text
          rw [List.append_assoc] at hline
          exact congrArg (fun r => ([] ++ r.1, r.2)) hline
      · have hne : (c.toUInt8 == b) = false := by simpa using Ne.symm hb
        rw [hne, Bool.false_and, if_neg Bool.false_ne_true]
        -- the likeness is over, and what it began with is a field name so far, or text of a body
        cases mode with
        | headers =>
          have hoffer : (within .headers (.separator (c :: rest)) run).offer b
              = (within .headers .fieldName run).offer b :=
            offer_congr run rfl (by simp [State.step, hb, State.inFieldName])
          have hline := line_fieldName run (b :: text)
          rw [Reading.line] at hline
          rw [hoffer]
          exact hline
        | body =>
          have hoffer : (within .body (.separator (c :: rest)) run).offer b
              = ([], within .body .body (run ++ [b])) := by
            simp [Reading.offer, Reading.take, within, machine, State.step, hb]
          rw [hoffer, line_within (.inr (.inr rfl)), List.append_assoc]
          rfl

/-- The first octet of a line, unless it may begin a message break. -/
theorem line_lead (mode : Mode) {b : UInt8} (hb : b ≠ 'F'.toUInt8) (rest : Bytes) :
    (lineStart mode).line (b :: rest)
      = (match mode with
          | .body => [.token .messageBody (b :: rest) false]
          | .headers =>
            if Octet.isSpaceOrTab b then [.token .fieldBody (b :: rest) false]
            else nameTokens (if isFieldNameOctet b then .fieldName else .error) [b] rest,
        ⟨mode, false, .idle⟩) := by
  unfold Reading.line
  cases mode with
  | body =>
    have hoffer : (lineStart .body).offer b = ([], within .body .body [b]) := by
      simp [Reading.offer, Reading.take, lineStart, within, machine, State.step, State.lead, hb]
    rw [hoffer, line_within (.inr (.inr rfl))]
    rfl
  | headers =>
    have hoffer : (lineStart .headers).offer b
        = ([], within .headers (if Octet.isSpaceOrTab b then .fieldBody
            else if isFieldNameOctet b then .fieldName else .error) [b]) := by
      simp only [Reading.offer, Reading.take, lineStart, within, machine, State.step, State.lead]
      cases Octet.isSpaceOrTab b <;> cases isFieldNameOctet b <;> simp [hb]
    rw [hoffer]
    cases Octet.isSpaceOrTab b with
    | true =>
      simp only [if_true]
      rw [line_within (.inr (.inl rfl))]
      rfl
    | false =>
      cases isFieldNameOctet b with
      | true =>
        simp only [if_true, if_neg Bool.false_ne_true]
        rw [line_fieldName]
        rfl
      | false =>
        simp only [if_neg Bool.false_ne_true]
        rw [line_error]
        rfl

/-- What a line comes to in front of its end. Only the line end counts an empty line. -/
theorem line_lineStart_eq (mode : Mode) (text : Bytes) :
    (lineStart mode).line text
      = (lineTokens mode text,
          ⟨if text.isEmpty then mode else lineMode mode text, text.isEmpty, .idle⟩) := by
  cases text with
  | nil => rfl
  | cons b rest =>
    rw [lineTokens_cons, lineMode]
    by_cases hb : b = 'F'.toUInt8
    · have hoffer : (lineStart mode).offer b
          = ([], within mode (.separator ['r', 'o', 'm', ' ']) [b]) := by
        rw [hb]
        rfl
      have hbreak : isBreak (b :: rest)
          = (['r', 'o', 'm', ' '].map Char.toUInt8).isPrefixOf rest := by
        rw [hb]
        rfl
      have hname : ∀ c ∈ ['r', 'o', 'm', ' '].dropLast, isFieldNameOctet c.toUInt8 = true :=
        List.all_eq_true.mp (by decide)
      rw [Reading.line, hoffer, line_separator (List.cons_ne_nil _ _) hname, hbreak]
      split
      · rfl
      · rw [hb]
        cases mode <;> rfl
    · have hfirst : ('F'.toUInt8 == b) = false := by simpa using Ne.symm hb
      have hbreak : isBreak (b :: rest) = false := by
        unfold isBreak breakPrefix
        show ('F'.toUInt8 == b && _) = false
        rw [hfirst, Bool.false_and]
      rw [line_lead mode hb, hbreak, if_neg Bool.false_ne_true, if_neg Bool.false_ne_true]
      rfl

/-- A line comes to its tokens, and to the mode of the next one. -/
theorem line_lineStart (mode : Mode) (text : Bytes) :
    ((lineStart mode).line text).1 = lineTokens mode text
      ∧ State.newline ((lineStart mode).line text).2 = ⟨lineMode mode text, true, .idle⟩ := by
  rw [line_lineStart_eq]
  cases text <;> exact ⟨rfl, rfl⟩

/-- After a message break come headers. -/
theorem lineMode_break (mode : Mode) {line : Bytes} (h : isBreak line = true) :
    lineMode mode line = .headers := by
  cases line with
  | nil => exact absurd h (by decide)
  | cons b rest =>
    rw [lineMode, h]
    rfl

/-- A line separates messages if its text does. -/
theorem isBreak_encode (text : String) :
    isBreak (Utf8.encode text) = "From ".toList.isPrefixOf text.toList := by
  rw [Bool.eq_iff_iff, isBreak, List.isPrefixOf_iff_prefix, List.isPrefixOf_iff_prefix]
  constructor
  · -- what follows the octets of `From ` is decoded by itself
    rintro ⟨rest, hrest⟩
    have htext := Utf8.decodeChars_encode_append "From " rest
    rw [show Utf8.encode "From " = breakPrefix from rfl, hrest, Utf8.decodeChars_encode] at htext
    exact ⟨_, htext.symm⟩
  · rintro ⟨rest, hrest⟩
    rw [Utf8.encode, ← hrest, List.flatMap_append]
    exact List.prefix_append _ _

/-! ### Header lines -/

/-- A field name has no space, and what begins like a message break has no colon before its
space. -/
theorem not_isPrefixOf_name (start tail : Bytes) (hstart : ':'.toUInt8 ∉ start)
    {name : Bytes} (hname : ∀ b ∈ name, isFieldNameOctet b = true) (rest : Bytes) :
    (start ++ ' '.toUInt8 :: tail).isPrefixOf (name ++ ':'.toUInt8 :: rest) = false := by
  induction start generalizing name with
  | nil =>
    cases name with
    | nil => rfl
    | cons b name =>
      have hb : ' '.toUInt8 ≠ b := by
        rintro rfl
        exact absurd (hname _ List.mem_cons_self) (by decide)
      rw [List.nil_append, List.cons_append, List.isPrefixOf, beq_eq_false_iff_ne.mpr hb,
        Bool.false_and]
  | cons c start ih =>
    rw [List.mem_cons, not_or] at hstart
    cases name with
    | nil =>
      have hc : (c == ':'.toUInt8) = false := beq_eq_false_iff_ne.mpr (Ne.symm hstart.1)
      rw [List.nil_append, List.cons_append, List.isPrefixOf, hc, Bool.false_and]
    | cons b name =>
      rw [List.forall_mem_cons] at hname
      rw [List.cons_append, List.cons_append, List.isPrefixOf, ih hstart.2 hname.2, Bool.and_false]

theorem isBreak_name {name : Bytes} (hname : ∀ b ∈ name, isFieldNameOctet b = true)
    (rest : Bytes) : isBreak (name ++ ':'.toUInt8 :: rest) = false :=
  not_isPrefixOf_name (Bytes.ascii "From") [] (by decide) hname rest

theorem nameTokens_name {name : Bytes} (hname : ∀ b ∈ name, isFieldNameOctet b = true)
    (start rest : Bytes) :
    nameTokens .fieldName start (name ++ ':'.toUInt8 :: rest)
      = .token .fieldName (start ++ name) false :: .token .colon [':'.toUInt8] false
        :: bodyTokens rest := by
  induction name generalizing start with
  | nil =>
    rw [List.nil_append, nameTokens, if_pos rfl, List.append_nil]
  | cons b name ih =>
    rw [List.forall_mem_cons] at hname
    rw [List.cons_append, nameTokens, if_neg (isFieldNameOctet_ne_colon hname.1), if_pos hname.1,
      ih hname.2, List.append_assoc]
    rfl

/-- A header line with a proper field name is split at the colon. -/
theorem lineTokens_header {name : Bytes} (hne : name ≠ [])
    (hname : ∀ b ∈ name, isFieldNameOctet b = true) (rest : Bytes) :
    lineTokens .headers (name ++ ':'.toUInt8 :: rest)
      = .token .fieldName name false :: .token .colon [':'.toUInt8] false :: bodyTokens rest := by
  have hbreak := isBreak_name hname rest
  obtain ⟨b, more, rfl⟩ := List.exists_cons_of_ne_nil hne
  rw [List.forall_mem_cons] at hname
  -- the line is no folded one
  have hblank : Octet.isSpaceOrTab b = false := by
    rw [Bool.eq_false_iff]
    intro hb
    simp only [Octet.isSpaceOrTab, Octet.among, List.any_cons, List.any_nil, Bool.or_false,
      Bool.or_eq_true, beq_iff_eq] at hb
    rcases hb with rfl | rfl <;> exact absurd hname.1 (by decide)
  rw [List.cons_append] at hbreak ⊢
  rw [lineTokens_cons, hbreak, if_neg Bool.false_ne_true]
  dsimp only
  rw [hblank, if_neg Bool.false_ne_true, if_pos hname.1, nameTokens_name hname.2]
  rfl

theorem lineMode_header {name : Bytes} (hname : ∀ b ∈ name, isFieldNameOctet b = true)
    (rest : Bytes) :
    lineMode .headers (name ++ ':'.toUInt8 :: rest) = .headers := by
  have hempty : (name ++ ':'.toUInt8 :: rest).isEmpty = false := by simp
  rw [lineMode, hempty, isBreak_name hname]
  rfl

/-- Mail messages are read line by line, whatever the lines end with. -/
theorem eventsFrom_lineEnd (mode : Mode) {text : Bytes} (htext : text.IsLine)
    {ending rest : Bytes} (hend : Reading.EndsLine ending rest) :
    eventsFrom mode (text ++ (ending ++ rest))
      = lineTokens mode text ++ .newline ending :: eventsFrom (lineMode mode text) rest := by
  obtain ⟨htokens, hmode⟩ := line_lineStart mode text
  have hnext : machine.newline ((lineStart mode).line text).2 = ⟨lineMode mode text, true, .idle⟩ :=
    hmode
  rw [eventsFrom, Reading.events_lineEnd rfl rfl htext hend, htokens, hnext]
  rfl

/-- A last line without an end. -/
theorem eventsFrom_lastLine (mode : Mode) {text : Bytes} (htext : text.IsLine) :
    eventsFrom mode text = lineTokens mode text := by
  rw [eventsFrom, Reading.events_lastLine (fun _ => rfl) rfl htext]
  exact (line_lineStart mode text).1

end MarkupFeed.Mail
