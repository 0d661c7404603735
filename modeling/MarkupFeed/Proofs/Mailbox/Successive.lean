import MarkupFeed.Proofs.Feed.Intake
import MarkupFeed.Proofs.Mailbox.Joining
import MarkupFeed.Proofs.Tokenizer.Ending

/-!
# Mailboxes that one reader reads one after the other

The end of an input closes the message in progress and the token in progress, but a few things stay
in the reader: which part of a message the input ended in (`Mail.modeAfter`), and whether it ended
in the middle of a line. `Mailbox.after_eq` says that there is nothing else. A reading that resumes
from there is a fresh one exactly when the input ended with a complete line of headers, and reads a
mailbox that begins with a message break alike if only one of the two holds:
`Feed.Intake.read_after_read`.
-/

namespace MarkupFeed

namespace Mail

/-- The merged events of an input that is read between two tokens, at the start of a line or
behind octets of one. -/
def eventsAt (mode : Mode) (atStart : Bool) (input : Bytes) : List (Event Kind) :=
  Reading.events (m := machine) ⟨⟨mode, atStart, .idle⟩, [], .none⟩ input

end Mail

namespace Draft

/-! ### The draft at the end of an input -/

/-- The part of a draft that does not belong to a message: no octets of a token in progress, and
whether the line in progress holds a token. -/
def IsBetween (draft : Draft) (hasToken : Bool) : Prop :=
  draft.piece = [] ∧ draft.hasToken = hasToken

theorem isBetween_observe_token (draft : Draft) (kind : Mail.Kind) (text : Bytes) :
    (draft.observe (.token kind text false)).1.IsBetween true := by
  cases kind with
  | messageBreak =>
    show (Draft.endMessage _).1.IsBetween true
    rw [endMessage]
    dsimp only
    split <;> exact ⟨rfl, rfl⟩
  | fieldName =>
    obtain ⟨piece, field, headers, inBody, lines, line, hasToken⟩ := draft
    cases field <;> exact ⟨rfl, rfl⟩
  | _ => exact ⟨rfl, rfl⟩

theorem isBetween_observeAll_tokens {draft : Draft} {hasToken : Bool} (h : draft.IsBetween hasToken)
    {events : List (Event Mail.Kind)} (hwhole : ∀ event ∈ events, Mail.IsWholeToken event) :
    (draft.observeAll events).1.IsBetween (hasToken || !events.isEmpty) := by
  induction events generalizing draft hasToken with
  | nil =>
    rw [List.isEmpty_nil, Bool.not_true, Bool.or_false]
    exact h
  | cons event rest ih =>
    rw [List.forall_mem_cons] at hwhole
    obtain ⟨⟨kind, text, rfl⟩, hrest⟩ := hwhole
    rw [observeAll_cons, List.isEmpty_cons, Bool.not_false, Bool.or_true]
    exact ih (isBetween_observe_token draft kind text) hrest

theorem isBetween_newline {draft : Draft} {hasToken : Bool} (h : draft.IsBetween hasToken) :
    draft.newline.IsBetween false := by
  obtain ⟨piece, field, headers, inBody, lines, line, token⟩ := draft
  obtain ⟨rfl, -⟩ := h
  unfold newline
  dsimp only
  split
  · exact ⟨rfl, rfl⟩
  · split
    · cases field <;> exact ⟨rfl, rfl⟩
    · exact ⟨rfl, rfl⟩

/-- At the end of an input, the draft has the tokens of an incomplete last line on it. -/
theorem isBetween_eventsFrom {draft : Draft} (h : draft.IsBetween false) (mode : Mail.Mode)
    (input : Bytes) :
    (draft.observeAll (Mail.eventsFrom mode input)).1.IsBetween (!decide input.EndsLines) := by
  induction input using Bytes.line_induction generalizing draft mode with
  | last text htext =>
    have hends : decide text.EndsLines = text.isEmpty := by
      rw [Bool.eq_iff_iff, decide_eq_true_iff, List.isEmpty_iff]
      exact Bytes.endsLines_iff_eq_nil htext
    rw [Mail.eventsFrom_lastLine mode htext, hends, ← Mail.isEmpty_lineTokens mode text]
    exact isBetween_observeAll_tokens h (Mail.isWholeToken_lineTokens mode text)
  | line text ending rest htext hend ih =>
    have htokens := isBetween_observeAll_tokens h (Mail.isWholeToken_lineTokens mode text)
    rw [Mail.eventsFrom_lineEnd mode htext hend, observeAll_append, observeAll_cons,
      decide_eq_decide.mpr (Bytes.endsLines_lineEnd_iff hend.1 rest)]
    exact ih (isBetween_newline htokens) (Mail.lineMode mode text)

theorem endMessage_fst {draft : Draft} {hasToken : Bool} (h : draft.IsBetween hasToken) :
    draft.endMessage.1 = { hasToken } := by
  obtain ⟨hpiece, htoken⟩ := h
  rw [endMessage, hpiece, htoken]
  split <;> rfl

end Draft

namespace Mailbox

/-! ### The reader at the end of an input -/

theorem readAll_fst (mailbox : Mailbox) (parts : List Bytes) :
    (mailbox.readAll parts).1
      = ⟨(mailbox.tokenizer.finish parts).1,
          (mailbox.draft.observeAll
            (Report.events (mailbox.tokenizer.finish parts).2)).1.endMessage.1⟩ := by
  induction parts generalizing mailbox with
  | nil => rfl
  | cons part parts ih =>
    -- the draft takes the reports of a part before the next part is read
    have hdraft := (congrArg mailbox.draft.observeAll (Report.events_append
      (mailbox.tokenizer.feed part).2 ((mailbox.tokenizer.feed part).1.finish parts).2)).trans
      (Draft.observeAll_append _ _ _)
    rw [Tokenizer.finish_cons, Tokenizer.finish_cons_fst]
    exact (ih _).trans (congrArg (fun r => Mailbox.mk _ r.1.endMessage.1) hdraft.symm)

/-- The reader that a mailbox leaves behind. -/
def after (input : Bytes) : Mailbox := (readAll {} [input]).1

/-- A fresh reader keeps of its input the mode and whether the last line is complete, whatever parts
the input comes in. -/
theorem readAll_fst_eq (parts : List Bytes) :
    (readAll {} parts).1
      = ⟨⟨⟨Mail.modeAfter .headers parts.flatten, decide (Bytes.EndsLines parts.flatten), .idle⟩,
          none, .none⟩, { hasToken := !decide (Bytes.EndsLines parts.flatten) }⟩ := by
  have htokenizer := Tokenizer.finish_fst (.fresh Mail.machine) parts
  have hmerged : Event.merged (Mail.machine.events parts)
      = Mail.eventsFrom .headers parts.flatten :=
    Machine.merged_events Mail.isSteady_machine parts
  have hdraft : ({} : Draft).observeAll (Mail.machine.events parts)
      = ({} : Draft).observeAll (Mail.eventsFrom .headers parts.flatten) := by
    rw [← hmerged]
    exact Draft.observeAll_mergedAfter {} none _
  have hfresh : ({} : Draft).IsBetween false := ⟨rfl, rfl⟩
  have hbetween := Draft.isBetween_eventsFrom hfresh .headers parts.flatten
  rw [← hdraft] at hbetween
  rw [readAll_fst, htokenizer]
  refine Mailbox.mk.injEq _ _ _ _ |>.mpr ⟨?_, Draft.endMessage_fst hbetween⟩
  exact congrArg (Tokenizer.mk · none .none) (Mail.last_lineStart .headers parts.flatten)

theorem after_eq (input : Bytes) :
    after input
      = ⟨⟨⟨Mail.modeAfter .headers input, decide input.EndsLines, .idle⟩, none, .none⟩,
          { hasToken := !decide input.EndsLines }⟩ := by
  rw [after, readAll_fst_eq, List.flatten_singleton]

/-! ### A reader that goes on -/

/-- A reader that holds nothing back gives the posts of a reading from its state. -/
theorem readAll_resumed (state : Mail.State) (draft : Draft) (parts : List Bytes) :
    (readAll ⟨⟨state, none, .none⟩, draft⟩ parts).2
      = draft.gather (Reading.events (m := Mail.machine) ⟨state, [], .none⟩ parts.flatten) := by
  have hfollows : (⟨state, none, .none⟩ : Tokenizer Mail.machine).Follows none
      ⟨state, [], .none⟩ :=
    { state_eq := rfl
      continuation_eq := rfl
      run_eq := rfl
      of_idle := fun _ => rfl
      of_open := fun _ _ heq => absurd heq (by simp)
      of_continuation := fun hne => absurd rfl hne }
  have hleads : (⟨state, none, .none⟩ : Tokenizer Mail.machine).Leads none
      (Reading.events ⟨state, [], .none⟩ parts.flatten) parts.flatten := ⟨_, hfollows, rfl⟩
  have hmerged := hleads.finish Mail.isSteady_machine
  rw [readAll_eq_gather, ← Draft.gather_merged]
  exact congrArg draft.gather hmerged

/-- The posts of a mailbox that is read behind another one. -/
theorem readAll_after (a : Bytes) (parts : List Bytes) :
    ((after a).readAll parts).2
      = ({ hasToken := !decide a.EndsLines } : Draft).gather
          (Mail.eventsAt (Mail.modeAfter .headers a) (decide a.EndsLines) parts.flatten) := by
  rw [after_eq, readAll_resumed]
  rfl

end Mailbox

/-! ### Readings from another state -/

namespace Mail

/-- In the middle of a header line, the line between two messages is the rest of that line. -/
theorem exists_eventsAt_break {input : Bytes} (h : breakPrefix <+: input) :
    ∃ line rest, eventsAt .headers false input = .token .fieldBody line false :: rest
      ∧ eventsFrom .headers input = .token .messageBreak line false :: rest := by
  have hbody : ∀ {line : Bytes}, breakPrefix <+: line →
      bodyTokens line = [.token .fieldBody line false] := by
    rintro _ ⟨more, rfl⟩
    rfl
  rcases Reading.exists_lineEnd input with htext | ⟨text, ending, rest, rfl, htext, hend⟩
  · refine ⟨input, [], ?_, ?_⟩
    · rw [eventsAt, Reading.events_lastLine (fun _ => rfl) rfl htext]
      exact (congrArg Prod.fst (line_bodyTokens input)).trans (hbody h)
    · rw [eventsFrom_lastLine .headers htext, lineTokens_break .headers h]
  · have hstart : breakPrefix <+: text := Reading.isPrefix_line (by decide) hend.1 h
    refine ⟨text, .newline ending :: eventsFrom .headers rest, ?_, ?_⟩
    · have hrest : (within .headers .idle []).line text
          = ([.token .fieldBody text false], ⟨.headers, false, .idle⟩) := by
        rw [line_bodyTokens, hbody hstart]
        rfl
      rw [eventsAt, Reading.events_lineEnd rfl rfl htext hend]
      exact congrArg
        (fun r => r.1 ++ .newline ending :: Reading.events ⟨machine.newline r.2, [], .none⟩ rest)
        hrest
    · rw [eventsFrom_lineEnd .headers htext hend, lineTokens_break .headers hstart,
        lineMode_break .headers (List.isPrefixOf_iff_prefix.mpr hstart)]
      rfl

end Mail

namespace Draft

/-- The line between two messages is lost in the middle of a header line, and so is nothing else. -/
theorem gather_eventsAt_break {input : Bytes} (h : Mail.breakPrefix <+: input) :
    ({ hasToken := true } : Draft).gather (Mail.eventsAt .headers false input)
      = Mailbox.posts input := by
  obtain ⟨line, rest, hat, hfresh⟩ := Mail.exists_eventsAt_break h
  have hobserve : ({ hasToken := true } : Draft).observe (.token .fieldBody line false)
      = ({ hasToken := true }, []) := rfl
  rw [Mailbox.posts_eq_gather, hat, hfresh, gather_cons, hobserve, gather_break]
  rfl

/-- From the start of a line in the headers all mailboxes are read as by a fresh reader, and from no
other state. -/
theorem forall_gather_eventsAt_iff (mode : Mail.Mode) (atStart : Bool) :
    (∀ input, ({ hasToken := !atStart } : Draft).gather (Mail.eventsAt mode atStart input)
        = Mailbox.posts input)
      ↔ atStart = true ∧ mode = .headers := by
  constructor
  · intro h
    cases mode with
    | body =>
      -- the headers are read as text
      have hheaders := h (Bytes.ascii "Subject: t\n\nx")
      cases atStart <;> exact absurd hheaders (by decide +kernel)
    | headers =>
      cases atStart with
      | false =>
        -- the empty line is the end of another one and does not end the headers
        exact absurd (h (Bytes.ascii "\nx")) (by decide +kernel)
      | true => exact ⟨rfl, rfl⟩
  · rintro ⟨rfl, rfl⟩ input
    exact (Mailbox.posts_eq_gather input).symm

/-- For mailboxes that begin with a line between two messages, one of the two is enough. -/
theorem forall_gather_eventsAt_break_iff (mode : Mail.Mode) (atStart : Bool) :
    (∀ input, Mail.breakPrefix <+: input →
        ({ hasToken := !atStart } : Draft).gather (Mail.eventsAt mode atStart input)
          = Mailbox.posts input)
      ↔ atStart = true ∨ mode = .headers := by
  constructor
  · intro h
    cases atStart with
    | true => exact .inl rfl
    | false =>
      cases mode with
      | headers => exact .inr rfl
      | body =>
        -- the line is taken for one of the body
        have hbreak := h (Bytes.ascii "From b\n") (by decide)
        exact absurd hbreak (by decide +kernel)
  · rintro h input hinput
    cases atStart with
    | false =>
      obtain rfl := h.resolve_left Bool.false_ne_true
      exact gather_eventsAt_break hinput
    | true =>
      -- the line between two messages is the same in every mode
      obtain ⟨line, rest, hbreak⟩ := Mail.exists_eventsFrom_break hinput
      have hat : Mail.eventsAt mode true input = Mail.eventsFrom mode input := rfl
      rw [hat, Mailbox.posts_eq_gather, hbreak, hbreak]
      rfl

end Draft

/-! ### One reader for several mailboxes -/

namespace Feed.Intake

variable {ε σ : Type} {channel : Channel ε σ}

/-- Into a pipeline with a channel that never fails, a reader that reads the mailbox `a` and then a
mailbox `b` sends the posts of `a` and those that the reader left behind by `a` makes of `b`. What
is left behind is the mode in which `a` ended, whether it ended with a complete line, and nothing
else. So every `b` is read as by a fresh reader if and only if `a` ended with a complete line of
headers, and every `b` that begins with a line between two messages if and only if `a` ended with a
complete line or in the headers. -/
theorem read_after_read (h : channel.NeverFails) (pipeline : Pipeline σ) (a : Bytes) :
    let mode := Mail.modeAfter .headers a
    let left : Mailbox :=
      ⟨⟨⟨mode, decide a.EndsLines, .idle⟩, none, .none⟩, { hasToken := !decide a.EndsLines }⟩
    (∀ b,
      let first := read channel { pipeline } a
      let second := read channel first.state b
      let posts := Mailbox.posts a ++ (left.readAll [b]).2
      first.error = none ∧ first.state.mailbox = left ∧ second.error = none
        ∧ second.state.pipeline = (pipeline.postAll channel posts).state
        ∧ second.state.messages = posts.length)
      ∧ ((∀ b, (left.readAll [b]).2 = Mailbox.posts b) ↔ a.EndsLines ∧ mode = .headers)
      ∧ ((∀ b, Mail.breakPrefix <+: b → (left.readAll [b]).2 = Mailbox.posts b)
        ↔ a.EndsLines ∨ mode = .headers) := by
  intro mode left
  have hleft : Mailbox.after a = left := Mailbox.after_eq a
  have hlater : ∀ parts : List Bytes, (left.readAll parts).2
      = ({ hasToken := !decide a.EndsLines } : Draft).gather
          (Mail.eventsAt mode (decide a.EndsLines) parts.flatten) := by
    intro parts
    rw [← hleft, Mailbox.readAll_after]
  refine ⟨fun b => ?_, ?_, ?_⟩
  · have hchunks : ∀ input : Bytes, (Bytes.chunks bufferSize input).flatten = input :=
      fun input => Bytes.flatten_chunks _ _
    have hmailbox : (({} : Mailbox).readAll (Bytes.chunks bufferSize a)).1 = left := by
      rw [← hleft, Mailbox.readAll_fst_eq, hchunks, Mailbox.after_eq]
    have hposts : (({} : Mailbox).readAll (Bytes.chunks bufferSize a)).2 = Mailbox.posts a := by
      rw [Mailbox.posts_readAll, hchunks, Mailbox.posts_eq_gather]
    have hparts : (left.readAll (Bytes.chunks bufferSize b)).2 = (left.readAll [b]).2 := by
      rw [hlater, hlater, hchunks, List.flatten_singleton]
    intro first second posts
    have hfirst : first = ⟨⟨left, (Mailbox.posts a).length,
        (pipeline.postAll channel (Mailbox.posts a)).state⟩, none⟩ := by
      show readAll channel _ _ = _
      rw [readAll_eq h, hmailbox, hposts, Nat.zero_add]
    have hsecond : second = read channel first.state b := rfl
    rw [hfirst, read, readAll_eq h, hparts, ← Pipeline.postAll_append h,
      ← List.length_append] at hsecond
    rw [hfirst, hsecond]
    exact ⟨rfl, rfl, rfl, rfl, rfl⟩
  · simp only [hlater, List.flatten_singleton, Draft.forall_gather_eventsAt_iff,
      decide_eq_true_eq]
  · simp only [hlater, List.flatten_singleton, Draft.forall_gather_eventsAt_break_iff,
      decide_eq_true_eq]

/-- Behind a complete line of headers, a reader goes on as a fresh one. -/
theorem read_after_read_headers :
    let pipeline : Pipeline Collected := ⟨[], {}⟩
    let a := Bytes.ascii "From a\nSubject: t\n"
    let b := Bytes.ascii "Subject: u\n\ny"
    let first := read Collected.channel { pipeline } a
    let second := read Collected.channel first.state b
    Collected.channel.NeverFails
      ∧ (a.EndsLines ∧ Mail.modeAfter .headers a = .headers)
      ∧ (first.state.mailbox.readAll [b]).2 = Mailbox.posts b
      ∧ second.error = none
      ∧ second.state.pipeline
        = (pipeline.postAll Collected.channel (Mailbox.posts a ++ Mailbox.posts b)).state := by
  have h : Collected.channel.NeverFails := fun _ _ => rfl
  obtain ⟨hread, halike, -⟩ := read_after_read h (⟨[], {}⟩ : Pipeline Collected)
    (Bytes.ascii "From a\nSubject: t\n")
  obtain ⟨-, hmailbox, herror, hpipeline, -⟩ := hread (Bytes.ascii "Subject: u\n\ny")
  have hheaders : (Bytes.ascii "From a\nSubject: t\n").EndsLines
      ∧ Mail.modeAfter .headers (Bytes.ascii "From a\nSubject: t\n") = .headers := by
    decide +kernel
  have hlater := halike.mpr hheaders (Bytes.ascii "Subject: u\n\ny")
  rw [hlater] at hpipeline
  rw [← hmailbox] at hlater
  exact ⟨h, hheaders, hlater, herror, hpipeline⟩

/-- Behind a message without a line end after its last line, the line between two messages and the
headers of the next message are read as further lines of its body. -/
theorem read_after_read_body :
    let a := Bytes.ascii "From a\nSubject: t\n\nx"
    let b := Bytes.ascii "From b\nSubject: u\n\ny\n"
    let first := read Collected.channel { pipeline := ⟨[], {}⟩ } a
    let second := read Collected.channel first.state b
    let fresh := read Collected.channel { pipeline := first.state.pipeline } b
    second.state.pipeline.state.posts.map (·.content) = ["x", "From b\nSubject: u\n\ny"]
      ∧ fresh.state.pipeline.state.posts.map (·.content) = ["x", "y"] := by
  decide +kernel

end Feed.Intake

end MarkupFeed
