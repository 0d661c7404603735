import MarkupFeed.Proofs.Format.ShellComments

/-!
# How far an escape reaches in a shell script

Outside quotes the end of a line ends a token, and an escape with it. In double quotes the token
goes on, and so does the escape: what is escaped is the next octet that is in no line end. With a
scan that carries the escape over line ends in this way (`Shell.carried`) the machine is in step on
every input (`Shell.octets_carried`). `Shell.scan` forgets it there, and agrees with the machine as
long as no backslash ends a line. The main statement is `Shell.escape_over_lines`.
-/

namespace MarkupFeed.Shell

/-! ### The scan over line ends -/

namespace Scanner

/-- Behind an octet of a line end. An escape in double quotes is still to come. -/
def overLine (s : Scanner) : Scanner :=
  { s.lineEnd with escaped := s.escaped && s.quote == some .double }

/-- Behind any octet. -/
def pass (s : Scanner) (b : UInt8) : Scanner :=
  if b = Octet.lineFeed ∨ b = Octet.carriageReturn then s.overLine else s.octet b

/-- The octet, with what it is part of. -/
def mark (s : Scanner) (b : UInt8) : UInt8 × Option Kind :=
  (b, if b = Octet.lineFeed ∨ b = Octet.carriageReturn then none else some (s.kind b))

variable {s : Scanner} {b : UInt8}

theorem pass_of_lineEnd (hb : b = Octet.lineFeed ∨ b = Octet.carriageReturn) :
    s.pass b = s.overLine := if_pos hb

theorem pass_of_not_lineEnd (hb : ¬(b = Octet.lineFeed ∨ b = Octet.carriageReturn)) :
    s.pass b = s.octet b := if_neg hb

theorem mark_of_lineEnd (hb : b = Octet.lineFeed ∨ b = Octet.carriageReturn) :
    s.mark b = (b, none) := by rw [mark, if_pos hb]

theorem mark_of_not_lineEnd (hb : ¬(b = Octet.lineFeed ∨ b = Octet.carriageReturn)) :
    s.mark b = (b, some (s.kind b)) := by rw [mark, if_neg hb]

theorem overLine_overLine (s : Scanner) : s.overLine.overLine = s.overLine := by
  simp [overLine, lineEnd]

/-- Behind a line end of two octets the scan is where it is behind one of them. -/
theorem foldl_pass_lineEnd (s : Scanner) {ending : Bytes} (h : ending ∈ Bytes.lineEnds) :
    ending.foldl pass s = s.overLine := by
  simp only [Bytes.lineEnds, List.mem_cons, List.not_mem_nil, or_false] at h
  rcases h with rfl | rfl | rfl
  · rfl
  · rfl
  · exact s.overLine_overLine

theorem foldl_pass_line {text : Bytes} (htext : text.IsLine) (s : Scanner) :
    text.foldl pass s = text.foldl octet s := by
  induction text generalizing s with
  | nil => rfl
  | cons b text ih =>
    rw [Bytes.IsLine, List.forall_mem_cons] at htext
    rw [List.foldl_cons, List.foldl_cons, pass_of_not_lineEnd (not_or.mpr htext.1), ih htext.2]

/-- There are no quotes in a comment. -/
def IsSound (s : Scanner) : Prop := s.inComment = true → s.quote = none

theorem IsSound.pass (h : s.IsSound) (b : UInt8) : (s.pass b).IsSound := by
  unfold Scanner.pass
  split
  · exact fun hcomment => absurd hcomment Bool.false_ne_true
  unfold octet
  split
  · exact h
  split
  · next hcomment _ => exact fun hcomment' => absurd hcomment' hcomment
  split
  · exact fun hcomment => absurd hcomment Bool.false_ne_true
  · exact fun hcomment => absurd hcomment Bool.false_ne_true
  · next hquote =>
    split
    · exact fun _ => hquote
    · exact fun hcomment => absurd hcomment Bool.false_ne_true

theorem IsSound.foldl_pass (h : s.IsSound) (input : Bytes) :
    (input.foldl Scanner.pass s).IsSound := by
  induction input generalizing s with
  | nil => exact h
  | cons b rest ih => exact ih (h.pass b)

/-- The scan is behind a backslash in double quotes. -/
structure InEscape (s : Scanner) : Prop where
  isSound : s.IsSound
  quote : s.quote = some .double
  escaped : s.escaped = true

namespace InEscape

theorem inComment (h : s.InEscape) : s.inComment = false := by
  rw [← Bool.not_eq_true]
  intro hcomment
  exact absurd (h.isSound hcomment) (by simp [h.quote])

theorem overLine (h : s.InEscape) : s.overLine.InEscape where
  isSound hcomment := absurd hcomment Bool.false_ne_true
  quote := h.quote
  escaped := by simp [Scanner.overLine, h.quote, h.escaped]

theorem foldl_pass (h : s.InEscape) {ends : Bytes}
    (hends : ∀ c ∈ ends, c = Octet.lineFeed ∨ c = Octet.carriageReturn) :
    (ends.foldl Scanner.pass s).InEscape := by
  induction ends generalizing s with
  | nil => exact h
  | cons c ends ih =>
    rw [List.forall_mem_cons] at hends
    rw [List.foldl_cons, pass_of_lineEnd hends.1]
    exact ih h.overLine hends.2

/-- Whatever octet follows, it is code, and the quotes stay open. -/
theorem octet_eq (h : s.InEscape) (b : UInt8) :
    s.octet b = { quote := some .double, atWord := false } := by
  simp [octet, h.inComment, h.escaped, h.quote]

theorem kind_eq (h : s.InEscape) (b : UInt8) : s.kind b = .code := by
  rw [kind, h.octet_eq]
  rfl

end InEscape

end Scanner

/-- The octets of an input, each with what it is part of. An escape in double quotes is carried over
line ends. -/
def carried : Scanner → Bytes → List (UInt8 × Option Kind)
  | _, [] => []
  | s, b :: rest => s.mark b :: carried (s.pass b) rest

theorem carried_append (s : Scanner) (front rest : Bytes) :
    carried s (front ++ rest) = carried s front ++ carried (front.foldl Scanner.pass s) rest := by
  induction front generalizing s with
  | nil => rfl
  | cons b front ih => exact congrArg (s.mark b :: ·) (ih (s.pass b))

/-- Within a line the two scans agree. -/
theorem carried_eq_scan (s : Scanner) {text : Bytes} (htext : text.IsLine) :
    carried s text = scan s text := by
  induction text generalizing s with
  | nil => rfl
  | cons b text ih =>
    rw [Bytes.IsLine, List.forall_mem_cons] at htext
    have hb : ¬(b = Octet.lineFeed ∨ b = Octet.carriageReturn) := not_or.mpr htext.1
    rw [carried, scan, if_neg hb, Scanner.mark_of_not_lineEnd hb, Scanner.pass_of_not_lineEnd hb,
      ih _ htext.2]

/-- The octets of line ends are part of nothing. -/
theorem carried_lineEnds (s : Scanner) {ends : Bytes}
    (hends : ∀ c ∈ ends, c = Octet.lineFeed ∨ c = Octet.carriageReturn) :
    carried s ends = ends.map (·, none) := by
  induction ends generalizing s with
  | nil => rfl
  | cons c ends ih =>
    rw [List.forall_mem_cons] at hends
    rw [carried, Scanner.mark_of_lineEnd hends.1, ih _ hends.2]
    rfl

/-- Behind a backslash in double quotes, and behind any line ends there, an octet is escaped. -/
theorem carried_of_inEscape {s : Scanner} (hs : s.InEscape) {ends back : Bytes} {b : UInt8}
    (hends : ∀ c ∈ ends, c = Octet.lineFeed ∨ c = Octet.carriageReturn)
    (hb : ¬(b = Octet.lineFeed ∨ b = Octet.carriageReturn)) :
    carried s (ends ++ b :: back)
      = ends.map (·, none)
        ++ (b, some .code) :: carried { quote := some .double, atWord := false } back := by
  have hbefore := hs.foldl_pass hends
  rw [carried_append, carried_lineEnds s hends, carried, Scanner.mark_of_not_lineEnd hb,
    Scanner.pass_of_not_lineEnd hb, hbefore.kind_eq, hbefore.octet_eq]

/-! ### The machine in step with the scan -/

/-- Where no escape in double quotes is open, none is carried over. -/
theorem overLine_scanner {s : State} (hs : s ≠ .doubleQuotedEscape) :
    s.scanner.overLine = s.scanner.lineEnd := by
  cases s with
  | doubleQuotedEscape => exact absurd rfl hs
  | _ => rfl

/-- Every input is reported as it is scanned so. -/
theorem octets_carried (s : State) (input : Bytes) :
    octetsOf (eventsFrom s input) = carried s.scanner input := by
  induction input using Bytes.line_induction generalizing s with
  | last text htext => rw [octets_lastLine s htext, carried_eq_scan _ htext]
  | line text ending rest htext hend ih =>
    obtain ⟨last, next, hlast, -, hstep, hescaped, hoctets⟩ := octets_line s htext hend
    have hnext : next.scanner = last.scanner.overLine := by
      by_cases h : last = .doubleQuotedEscape
      · rw [hescaped h, h]
        rfl
      · rw [(hstep h).1, overLine_scanner h]
    have hends : ∀ c ∈ ending, c = Octet.lineFeed ∨ c = Octet.carriageReturn :=
      fun c hc => Bytes.eq_or_eq_of_mem_lineEnds hend.1 hc
    rw [hoctets, ih, hnext, hlast, carried_append, carried_append, carried_eq_scan _ htext,
      carried_lineEnds _ hends, Scanner.foldl_pass_line htext, Scanner.foldl_pass_lineEnd _ hend.1]

/-- The octets of a shell script are reported as the scan has them that carries escapes in double
quotes over line ends, whatever buffers the script comes in. Hence a backslash in double quotes
escapes one octet, the next one that is in no line end: it is code, and quotes that it would close
stay open behind it. -/
theorem escape_over_lines (buffers : List Bytes) :
    let octets := octetsOf (Event.merged (machine.events buffers))
    octets = carried {} buffers.flatten
      ∧ ∀ (front ends back : Bytes) (b : UInt8), buffers.flatten = front ++ (ends ++ b :: back) →
        (front.foldl Scanner.pass {}).quote = some .double →
        (front.foldl Scanner.pass {}).escaped = true →
        (∀ c ∈ ends, c = Octet.lineFeed ∨ c = Octet.carriageReturn) →
        ¬(b = Octet.lineFeed ∨ b = Octet.carriageReturn) →
        octets = carried {} front ++ (ends.map (·, none)
          ++ (b, some .code) :: carried { quote := some .double, atWord := false } back) := by
  have hsteady : machine.IsSteady :=
    fun s b => (State.shifts_step s b).mono fun _ => beq_eq_false_iff_ne.2
  have hoctets : octetsOf (Event.merged (machine.events buffers)) = carried {} buffers.flatten :=
    (congrArg octetsOf (machine.merged_events hsteady buffers)).trans
      (octets_carried .idle buffers.flatten)
  refine ⟨hoctets, ?_⟩
  intro front ends back b hinput hquote hescaped hends hb
  have hsound : (front.foldl Scanner.pass {}).IsSound :=
    Scanner.IsSound.foldl_pass (fun h => absurd h Bool.false_ne_true) front
  rw [hoctets, hinput, carried_append, carried_of_inEscape ⟨hsound, hquote, hescaped⟩ hends hb]

/-- A quote behind a backslash and a line end does not close the word. -/
theorem escape_over_lines_quote :
    let buffers := [Bytes.ascii "x \"a\\", Bytes.ascii "\n\" # c\"\n"]
    let front := Bytes.ascii "x \"a\\"
    buffers.flatten = front ++ ([Octet.lineFeed] ++ '"'.toUInt8 :: Bytes.ascii " # c\"\n")
      ∧ (front.foldl Scanner.pass {}).quote = some .double
      ∧ (front.foldl Scanner.pass {}).escaped = true
      ∧ octetsOf (Event.merged (machine.events buffers))
        = carried {} front ++ ([(Octet.lineFeed, none)] ++ ('"'.toUInt8, some .code)
          :: carried { quote := some .double, atWord := false } (Bytes.ascii " # c\"\n")) := by
  intro buffers front
  have hinput : buffers.flatten
      = front ++ ([Octet.lineFeed] ++ '"'.toUInt8 :: Bytes.ascii " # c\"\n") := by decide
  have hquote : (front.foldl Scanner.pass {}).quote = some .double := by decide
  have hescaped : (front.foldl Scanner.pass {}).escaped = true := by decide
  exact ⟨hinput, hquote, hescaped,
    (escape_over_lines buffers).2 front [Octet.lineFeed] _ _ hinput hquote hescaped (by decide)
      (by decide)⟩

/-- A scan that has the line end use up the escape finds the word closed there, and a comment
behind it. The machine does not. -/
theorem quote_escaped_over_line :
    let input := Bytes.ascii "\"a\\\n\" # c"
    machine.tokens input
        = [.token .code (Bytes.ascii "\"a\\") true, .newline [Octet.lineFeed],
          .token .code (Bytes.ascii "\" # c") false]
      ∧ octetsOf (machine.tokens input) ≠ scan {} input
      ∧ ((scan {} input).filter fun mark => mark.2 == some .comment).map Prod.fst
        = Bytes.ascii "# c" := by
  refine ⟨?_, ?_, ?_⟩ <;> decide +kernel

end MarkupFeed.Shell
