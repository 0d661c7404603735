import MarkupFeed.Format.Shell
import MarkupFeed.Proofs.Format.Steady
import MarkupFeed.Proofs.Tokenizer.ByLine
import MarkupFeed.Proofs.Tokenizer.Chunking

/-!
# The comments of shell scripts, found by a scan over the octets

A `Shell.Scanner` keeps the quotes it is in, whether the next octet is escaped, and whether a `#`
would begin a word. It knows nothing of tokens: `Shell.scan` says of each octet whether it is part
of a line end, of a comment or of code. The machine comes to the same in three steps: what an octet
does (`Shell.octets_offer`), what a line does (`Shell.octets_line`), and what the lines of an input
do one after the other (`Shell.octets_events`). At a line end the two keep in step unless the
machine has just read a backslash, which the scan forgets there. The main statement is
`Shell.comments_eq_scan`.
-/

namespace MarkupFeed

/-- The octets of an event, each with the kind of its token. Those of a line end have none. -/
def Event.octets {κ : Type} : Event κ → List (UInt8 × Option κ)
  | .token kind text _ => text.map (·, some kind)
  | .newline text => text.map (·, none)

namespace Shell

/-! ### The scan -/

inductive Quote where
  | single
  | double
  deriving DecidableEq, Repr

/-- A scan between two octets. -/
structure Scanner where
  /-- The quotes it is in. -/
  quote : Option Quote := none
  /-- Whether the next octet is escaped. -/
  escaped : Bool := false
  /-- Whether the next octet is at the start of a line outside quotes, or behind an octet that ends
  a word. -/
  atWord : Bool := true
  inComment : Bool := false
  deriving DecidableEq, Repr

namespace Scanner

/-- The octets that end a word outside quotes. -/
def endsWord (b : UInt8) : Bool := Octet.among [' ', '\t', ';', '|', '&', '(', ')'] b

/-- Behind an octet that is part of no line end. -/
def octet (s : Scanner) (b : UInt8) : Scanner :=
  if s.inComment then s
  else if s.escaped then { s with escaped := false, atWord := false }
  else
    match s.quote with
    | some .single =>
      { quote := if b = '\''.toUInt8 then none else some .single, atWord := false }
    | some .double =>
      { quote := if b = '"'.toUInt8 then none else some .double
        escaped := b == Octet.backslash
        atWord := false }
    | none =>
      if s.atWord && b == '#'.toUInt8 then { s with inComment := true }
      else
        { quote :=
            if b = '\''.toUInt8 then some .single
            else if b = '"'.toUInt8 then some .double
            else none
          escaped := b == Octet.backslash
          atWord := endsWord b }

/-- Behind a line end: quotes stay open, and a comment is over. -/
def lineEnd (s : Scanner) : Scanner := { quote := s.quote, atWord := s.quote.isNone }

/-- What the octet is part of. -/
def kind (s : Scanner) (b : UInt8) : Kind := if (s.octet b).inComment then .comment else .code

end Scanner

/-- The octets of an input, each with what it is part of. Those of line ends are part of nothing. -/
def scan : Scanner → Bytes → List (UInt8 × Option Kind)
  | _, [] => []
  | s, b :: rest =>
    if b = Octet.lineFeed ∨ b = Octet.carriageReturn then (b, none) :: scan s.lineEnd rest
    else (b, some (s.kind b)) :: scan (s.octet b) rest

/-- A line in front of other octets is scanned first. -/
theorem scan_line (s : Scanner) {text : Bytes} (htext : text.IsLine) (rest : Bytes) :
    scan s (text ++ rest) = scan s text ++ scan (text.foldl Scanner.octet s) rest := by
  induction text generalizing s with
  | nil => rfl
  | cons b text ih =>
    rw [Bytes.IsLine, List.forall_mem_cons] at htext
    have hb : ¬(b = Octet.lineFeed ∨ b = Octet.carriageReturn) := not_or.mpr htext.1
    rw [List.cons_append, scan, scan, if_neg hb, if_neg hb, ih _ htext.2]
    rfl

/-- However a line ends, the scan goes on from there. -/
theorem scan_lineEnd (s : Scanner) {ending : Bytes} (h : ending ∈ Bytes.lineEnds) (rest : Bytes) :
    scan s (ending ++ rest) = ending.map (·, none) ++ scan s.lineEnd rest := by
  simp only [Bytes.lineEnds, List.mem_cons, List.not_mem_nil, or_false] at h
  rcases h with rfl | rfl | rfl <;> rfl

/-! ### The machine in step with the scan -/

/-- The scan at a state of the machine. -/
def State.scanner : State → Scanner
  | idle => {}
  | code wordBreak => { atWord := wordBreak }
  | codeEscape => { escaped := true, atWord := false }
  | singleQuoted => { quote := some .single, atWord := false }
  | doubleQuoted => { quote := some .double, atWord := false }
  | doubleQuotedEscape => { quote := some .double, escaped := true, atWord := false }
  | comment => { inComment := true }

/-- Outside quotes the machine goes where the scan does, unless a comment begins. -/
theorem scanner_afterCode {wordBreak : Bool} {b : UInt8}
    (hb : (wordBreak && b == '#'.toUInt8) = false) :
    (State.afterCode b).scanner = ({ atWord := wordBreak } : Scanner).octet b := by
  unfold State.afterCode Scanner.octet
  simp only [hb, Bool.false_eq_true, if_false]
  by_cases hback : b = Octet.backslash
  · subst hback
    rfl
  by_cases hsingle : b = '\''.toUInt8
  · subst hsingle
    rfl
  by_cases hdouble : b = '"'.toUInt8
  · subst hdouble
    rfl
  simp only [if_neg hback, if_neg hsingle, if_neg hdouble, beq_eq_false_iff_ne.mpr hback]
  rfl

/-- What an octet does to the machine if it goes on the token: the scan goes with it, and the token
keeps its kind. -/
structure GoesOn (s : State) (b : UInt8) (next : State) : Prop where
  scanner_eq : next.scanner = s.scanner.octet b
  ne_idle : next ≠ .idle
  kind_eq : s ≠ .idle → next.kind = s.kind
  eq_backslash : next = .doubleQuotedEscape → b = Octet.backslash

theorem goesOn_afterCode {s : State} {wordBreak : Bool} (hs : s.scanner = { atWord := wordBreak })
    (hkind : s ≠ .idle → s.kind = .code) {b : UInt8}
    (hb : (wordBreak && b == '#'.toUInt8) = false) : GoesOn s b (State.afterCode b) := by
  refine ⟨(scanner_afterCode hb).trans (by rw [hs]), ?_, fun hne => ?_, ?_⟩ <;>
    unfold State.afterCode
  · split
    · simp
    · split
      · simp
      · split <;> simp
  · rw [hkind hne]
    split
    · rfl
    · split
      · rfl
      · split <;> rfl
  · split
    · simp
    · split
      · simp
      · split <;> simp

/-- An octet goes on the token, except that a `#` at the start of a word ends code. -/
theorem step_cases (s : State) (b : UInt8) :
    (∃ next, s.step b = .shift next ∧ GoesOn s b next)
      ∨ s = .code true ∧ b = '#'.toUInt8 ∧ s.step b = .reject s := by
  cases s with
  | idle =>
    left
    by_cases hb : b = '#'.toUInt8
    · refine ⟨.comment, by simp [State.step, hb], ?_, by simp, by simp, by simp⟩
      rw [hb]
      rfl
    · exact ⟨_, by rw [State.step, if_neg hb], goesOn_afterCode rfl (fun h => absurd rfl h)
        (by simp [hb])⟩
  | code wordBreak =>
    by_cases hb : (wordBreak && b == '#'.toUInt8) = true
    · right
      have hstep : (State.code wordBreak).step b = .reject (.code wordBreak) := by
        rw [State.step, if_pos hb]
      rw [Bool.and_eq_true, beq_iff_eq] at hb
      obtain ⟨rfl, rfl⟩ := hb
      exact ⟨rfl, rfl, hstep⟩
    · rw [Bool.not_eq_true] at hb
      exact .inl ⟨_, by rw [State.step, hb, if_neg Bool.false_ne_true],
        goesOn_afterCode rfl (fun _ => rfl) hb⟩
  | codeEscape => exact .inl ⟨_, rfl, rfl, by simp, fun _ => rfl, by simp⟩
  | singleQuoted =>
    left
    by_cases hb : b = '\''.toUInt8
    · subst hb
      exact ⟨.code false, rfl, rfl, by simp, fun _ => rfl, by simp⟩
    · exact ⟨.singleQuoted, by simp [State.step, hb],
        by simp [State.scanner, Scanner.octet, hb], by simp, fun _ => rfl, by simp⟩
  | doubleQuoted =>
    left
    by_cases hb : b = '"'.toUInt8
    · subst hb
      exact ⟨.code false, rfl, rfl, by simp, fun _ => rfl, by simp⟩
    by_cases hback : b = Octet.backslash
    · subst hback
      exact ⟨.doubleQuotedEscape, rfl, rfl, by simp, fun _ => rfl, fun _ => rfl⟩
    · exact ⟨.doubleQuoted, by simp [State.step, hb, hback],
        by simp [State.scanner, Scanner.octet, hb, hback], by simp, fun _ => rfl, by simp⟩
  | doubleQuotedEscape => exact .inl ⟨_, rfl, rfl, by simp, fun _ => rfl, by simp⟩
  | comment => exact .inl ⟨_, rfl, rfl, by simp, fun _ => rfl, by simp⟩

/-- Inside a token, its kind is that of its octets. -/
theorem GoesOn.kind_next {s next : State} {b : UInt8} (h : GoesOn s b next) :
    next.kind = s.scanner.kind b := by
  have hkind : next.kind = if next.scanner.inComment then .comment else .code := by
    cases next with
    | idle => exact absurd rfl h.ne_idle
    | _ => rfl
  rw [hkind, h.scanner_eq]
  rfl

/-! ### An octet, a line, an input -/

/-- A reading inside a line. -/
def readingAt (s : State) (run : Bytes) : Reading machine := ⟨s, run, .none⟩

/-- The merged events of an input that is read from a state on. -/
def eventsFrom (s : State) (input : Bytes) : List (Event Kind) := (readingAt s []).events input

/-- The octets of events, in their order. -/
def octetsOf (events : List (Event Kind)) : List (UInt8 × Option Kind) :=
  events.flatMap Event.octets

theorem octetsOf_append (events more : List (Event Kind)) :
    octetsOf (events ++ more) = octetsOf events ++ octetsOf more :=
  List.flatMap_append

/-- The octets of the token in progress. -/
def pending (s : State) (run : Bytes) : List (UInt8 × Option Kind) := run.map (·, some s.kind)

/-- An octet of a line is added to what is reported or in progress, and the machine stays in step
with the scan. -/
theorem octets_offer {s : State} {run : Bytes} (hrun : s = .idle → run = []) (b : UInt8) :
    ∃ (events : List (Event Kind)) (next : State) (run' : Bytes),
      (readingAt s run).offer b = (events, readingAt next run')
      ∧ next.scanner = s.scanner.octet b ∧ next ≠ .idle
      ∧ (next = .doubleQuotedEscape → b = Octet.backslash)
      ∧ octetsOf events ++ pending next run' = pending s run ++ [(b, some (s.scanner.kind b))] := by
  rcases step_cases s b with ⟨next, hstep, hnext⟩ | ⟨rfl, rfl, -⟩
  · refine ⟨[], next, run ++ [b], Reading.offer_of_shift hstep, hnext.scanner_eq, hnext.ne_idle,
      hnext.eq_backslash, ?_⟩
    rw [← hnext.kind_next, pending, pending, List.map_append]
    by_cases hs : s = .idle
    · rw [hrun hs]
      rfl
    · rw [hnext.kind_eq hs]
      rfl
  · -- the code in progress is reported, and the octet begins a comment
    refine ⟨[.token .code run false], .comment, ['#'.toUInt8], rfl, rfl, by simp, by simp, ?_⟩
    exact congrArg (· ++ [('#'.toUInt8, some Kind.comment)]) (List.append_nil _)

/-- Whether a backslash in double quotes may be the last octet in front of where a line ends. -/
def EndsEscaped (s : State) (text : Bytes) : Prop :=
  text.getLast? = some Octet.backslash ∨ text = [] ∧ s = .doubleQuotedEscape

/-- Octets of a line are reported or in progress as they are scanned. -/
theorem octets_offerAll {s : State} {run : Bytes} (hrun : s = .idle → run = []) {text : Bytes}
    (htext : text.IsLine) :
    ∃ (events : List (Event Kind)) (next : State) (run' : Bytes),
      (readingAt s run).offerAll text = (events, readingAt next run')
      ∧ next.scanner = text.foldl Scanner.octet s.scanner ∧ (next = .idle → run' = [])
      ∧ (next = .doubleQuotedEscape → EndsEscaped s text)
      ∧ octetsOf events ++ pending next run' = pending s run ++ scan s.scanner text := by
  induction text generalizing s run with
  | nil => exact ⟨[], s, run, rfl, rfl, hrun, fun h => .inr ⟨rfl, h⟩, (List.append_nil _).symm⟩
  | cons b text ih =>
    rw [Bytes.IsLine, List.forall_mem_cons] at htext
    have hb : ¬(b = Octet.lineFeed ∨ b = Octet.carriageReturn) := not_or.mpr htext.1
    obtain ⟨before, mid, run₁, hoffer, hmid, hidle, hback, hbefore⟩ := octets_offer hrun b
    have hrun₁ : mid = .idle → run₁ = [] := fun h => absurd h hidle
    obtain ⟨after, next, run₂, hall, hnext, hrun₂, hescape, hafter⟩ := ih hrun₁ htext.2
    refine ⟨before ++ after, next, run₂, ?_, ?_, hrun₂, fun h => .inl ?_, ?_⟩
    · rw [Reading.offerAll, hoffer, hall]
      rfl
    · rw [hnext, hmid]
      rfl
    · -- the last octet is one of the others, or this one
      rcases hescape h with hlast | ⟨rfl, hescaped⟩
      · obtain ⟨front, rfl⟩ := List.getLast?_eq_some_iff.mp hlast
        exact List.getLast?_eq_some_iff.mpr ⟨b :: front, rfl⟩
      · exact congrArg some (hback hescaped)
    · calc octetsOf (before ++ after) ++ pending next run₂
          = octetsOf before ++ (octetsOf after ++ pending next run₂) := by
            rw [octetsOf_append, List.append_assoc]
        _ = octetsOf before ++ pending mid run₁ ++ scan mid.scanner text := by
            rw [hafter, List.append_assoc]
        _ = pending s run ++ scan s.scanner (b :: text) := by
            rw [hbefore, hmid, scan, if_neg hb, List.append_assoc]
            rfl

/-- The end of a line reports what is in progress. It leaves the machine in step with the scan,
unless the next octet is escaped in double quotes: it still is behind the line end. -/
theorem octets_beforeLineEnd {s : State} {run : Bytes} (hrun : s = .idle → run = []) :
    ∃ (events : List (Event Kind)) (next : State),
      (readingAt s run).beforeLineEnd = (events, next) ∧ octetsOf events = pending s run
      ∧ (s ≠ .doubleQuotedEscape →
        next.scanner = s.scanner.lineEnd ∧ next ≠ .doubleQuotedEscape)
      ∧ (s = .doubleQuotedEscape → next = .doubleQuotedEscape) := by
  have hpiece : octetsOf (if run.isEmpty then [] else [.token .code run true])
      = run.map (·, some .code) := by
    cases run with
    | nil => rfl
    | cons b run => exact List.append_nil _
  cases s with
  | idle =>
    rw [hrun rfl]
    exact ⟨[], .idle, rfl, rfl, fun _ => ⟨rfl, by simp⟩, by simp⟩
  | code _ | codeEscape =>
    exact ⟨[.token .code run false], .idle, rfl, List.append_nil _, fun _ => ⟨rfl, by simp⟩,
      by simp⟩
  | comment =>
    exact ⟨[.token .comment run false], .idle, rfl, List.append_nil _, fun _ => ⟨rfl, by simp⟩,
      by simp⟩
  | singleQuoted => exact ⟨_, .singleQuoted, rfl, hpiece, fun _ => ⟨rfl, by simp⟩, by simp⟩
  | doubleQuoted => exact ⟨_, .doubleQuoted, rfl, hpiece, fun _ => ⟨rfl, by simp⟩, by simp⟩
  | doubleQuotedEscape =>
    exact ⟨_, .doubleQuotedEscape, rfl, hpiece, fun h => absurd rfl h, fun _ => rfl⟩

/-- The end of the input reports what is in progress. -/
theorem octets_ending {s : State} {run : Bytes} (hrun : s = .idle → run = []) :
    ∃ events : List (Event Kind), (readingAt s run).ending = events
      ∧ octetsOf events = pending s run := by
  cases s with
  | idle =>
    rw [hrun rfl]
    exact ⟨[], rfl, rfl⟩
  | _ => exact ⟨_, rfl, List.append_nil _⟩

/-- A last line is reported as it is scanned. -/
theorem octets_lastLine (s : State) {text : Bytes} (htext : text.IsLine) :
    octetsOf (eventsFrom s text) = scan s.scanner text := by
  obtain ⟨events, next, run, hall, -, hrun, -, hoctets⟩ :=
    octets_offerAll (s := s) (fun _ => rfl) htext
  obtain ⟨closing, hclose, hclosed⟩ := octets_ending hrun
  have hevents : eventsFrom s text = events ++ closing := by
    rw [eventsFrom, Reading.events_eq_offerAll rfl htext, hall]
    exact congrArg (events ++ ·) hclose
  rw [hevents, octetsOf_append, hclosed, hoctets]
  rfl

/-- So is a line with its end. What is behind it is read from a state that is in step with the scan,
unless the machine ends the line in an escape in double quotes. -/
theorem octets_line (s : State) {text ending rest : Bytes} (htext : text.IsLine)
    (hend : Reading.EndsLine ending rest) :
    ∃ last next : State, last.scanner = text.foldl Scanner.octet s.scanner
      ∧ (last = .doubleQuotedEscape → EndsEscaped s text)
      ∧ (last ≠ .doubleQuotedEscape →
        next.scanner = last.scanner.lineEnd ∧ next ≠ .doubleQuotedEscape)
      ∧ (last = .doubleQuotedEscape → next = .doubleQuotedEscape)
      ∧ octetsOf (eventsFrom s (text ++ (ending ++ rest)))
        = scan s.scanner text ++ (ending.map (·, none) ++ octetsOf (eventsFrom next rest)) := by
  obtain ⟨events, last, run, hall, hlast, hrun, hescape, hoctets⟩ :=
    octets_offerAll (s := s) (fun _ => rfl) htext
  obtain ⟨closing, next, hclose, hclosed, hstep, hescaped⟩ := octets_beforeLineEnd hrun
  have hline : (readingAt s []).line text = (events ++ closing, next) := by
    rw [Reading.line_eq_offerAll, hall]
    exact congrArg (fun r : List (Event Kind) × State => (events ++ r.1, r.2)) hclose
  refine ⟨last, next, hlast, hescape, hstep, hescaped, ?_⟩
  calc octetsOf (eventsFrom s (text ++ (ending ++ rest)))
      = octetsOf (events ++ closing ++ .newline ending :: eventsFrom next rest) := by
        rw [eventsFrom, readingAt, Reading.events_lineEnd rfl rfl htext hend, ← readingAt, hline]
        rfl
    _ = octetsOf events ++ pending last run ++ (ending.map (·, none)
        ++ octetsOf (eventsFrom next rest)) := by
        rw [octetsOf_append, octetsOf_append, hclosed]
        rfl
    _ = scan s.scanner text ++ (ending.map (·, none) ++ octetsOf (eventsFrom next rest)) := by
        rw [hoctets]
        rfl

/-- A line end behind a backslash begins with one of two octets. -/
theorem not_lineEnd_of_backslash {front ending rest : Bytes} (hending : ending ∈ Bytes.lineEnds)
    (hlf : ¬[Octet.backslash, Octet.lineFeed] <:+: front ++ [Octet.backslash] ++ (ending ++ rest))
    (hcr : ¬[Octet.backslash, Octet.carriageReturn]
      <:+: front ++ [Octet.backslash] ++ (ending ++ rest)) : False := by
  simp only [Bytes.lineEnds, List.mem_cons, List.not_mem_nil, or_false] at hending
  rcases hending with rfl | rfl | rfl
  · exact hlf ⟨front, rest, by simp⟩
  · exact hcr ⟨front, rest, by simp⟩
  · exact hcr ⟨front, Octet.lineFeed :: rest, by simp⟩

/-- An input in which no backslash is the last octet of a line is reported as it is scanned. -/
theorem octets_events {s : State} (hs : s ≠ .doubleQuotedEscape) {input : Bytes}
    (hlf : ¬[Octet.backslash, Octet.lineFeed] <:+: input)
    (hcr : ¬[Octet.backslash, Octet.carriageReturn] <:+: input) :
    octetsOf (eventsFrom s input) = scan s.scanner input := by
  induction input using Bytes.line_induction generalizing s with
  | last text htext => exact octets_lastLine s htext
  | line text ending rest htext hend ih =>
    obtain ⟨last, next, hlast, hescape, hstep, -, hoctets⟩ := octets_line s htext hend
    have hrest : rest <:+: text ++ (ending ++ rest) :=
      ⟨text ++ ending, [], by rw [List.append_nil, List.append_assoc]⟩
    have hback : last ≠ .doubleQuotedEscape := by
      intro h
      rcases hescape h with hlast | ⟨-, hescaped⟩
      · obtain ⟨front, rfl⟩ := List.getLast?_eq_some_iff.mp hlast
        exact not_lineEnd_of_backslash hend.1 hlf hcr
      · exact hs hescaped
    obtain ⟨hscanner, hne⟩ := hstep hback
    rw [hoctets, ih hne (fun h => hlf (h.trans hrest)) fun h => hcr (h.trans hrest),
      scan_line _ htext, scan_lineEnd _ hend.1, hscanner, hlast]

/-- The comments of a shell script are those that a scan over its octets finds, whatever buffers the
script comes in: every other octet is code, or stands in a line end. -/
theorem comments_eq_scan (buffers : List Bytes)
    (hlf : ¬[Octet.backslash, Octet.lineFeed] <:+: buffers.flatten)
    (hcr : ¬[Octet.backslash, Octet.carriageReturn] <:+: buffers.flatten) :
    (Event.merged (machine.events buffers)).flatMap Event.octets = scan {} buffers.flatten := by
  have hsteady : machine.IsSteady :=
    fun s b => (State.shifts_step s b).mono fun _ => beq_eq_false_iff_ne.2
  exact (congrArg octetsOf (machine.merged_events hsteady buffers)).trans
    (octets_events (s := .idle) (by simp) hlf hcr)

/-- A quoted `#` at the start of a line, an escaped one, and one that begins a comment. -/
theorem comments_eq_scan_quotes :
    let buffers := [Bytes.ascii "echo 'a\n# b", Bytes.ascii "' \\# #", Bytes.ascii " c\n"]
    ¬[Octet.backslash, Octet.lineFeed] <:+: buffers.flatten
      ∧ ¬[Octet.backslash, Octet.carriageReturn] <:+: buffers.flatten
      ∧ (Event.merged (machine.events buffers)).flatMap Event.octets = scan {} buffers.flatten
      ∧ ((scan {} buffers.flatten).filter fun mark => mark.2 == some .comment).map Prod.fst
        = Bytes.ascii "# c" := by
  intro buffers
  have hlf : ¬[Octet.backslash, Octet.lineFeed] <:+: buffers.flatten := by decide +kernel
  have hcr : ¬[Octet.backslash, Octet.carriageReturn] <:+: buffers.flatten := by decide +kernel
  exact ⟨hlf, hcr, comments_eq_scan buffers hlf hcr, by decide +kernel⟩

end Shell

end MarkupFeed
