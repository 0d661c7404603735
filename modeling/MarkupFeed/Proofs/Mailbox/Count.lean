import MarkupFeed.Proofs.Format.Breaks
import MarkupFeed.Proofs.Mailbox.RoundTrip

/-!
# How many posts are read from a mailbox that was written

A draft that has anything of a message is open (`Draft.isOpen`), and stays so until a line between
messages, or the end of the input, gives its post: whatever else is read, no message is lost
(`isOpen_le_observeAll`), and none is made up where no line separates messages
(`observeAll_of_no_breaks`). The message of a post opens a draft with its first field, its title.
So at least as many posts are read as were written, and exactly as many unless the content or the
tag of a post hides a line between messages (`Post.HidesBreak`): content is quoted by its LF lines,
but read with each CR ending a line as well, and the tag is not quoted at all. The main statement is
`Mailbox.length_posts_written`, and `Mailbox.posts_gained` a post that is read as two.
-/

namespace MarkupFeed

/-! ### Drafts that have something of a message -/

namespace Draft

/-- Whether the draft has anything of a message. -/
def isOpen (draft : Draft) : Bool :=
  draft.field.isSome || !draft.headers.isEmpty || !draft.lines.isEmpty || !draft.line.isEmpty

/-- A draft gives a post if it is open, and none otherwise. -/
theorem length_endMessage (draft : Draft) : draft.endMessage.2.length = draft.isOpen.toNat := by
  have hempty : (draft.endField.headers.isEmpty && draft.endField.lines.isEmpty
      && draft.endField.line.isEmpty) = !draft.isOpen := by
    unfold endField isOpen
    cases draft.field <;> simp
  rw [endMessage, hempty]
  cases draft.isOpen <;> rfl

theorem isOpen_endField (draft : Draft) : draft.endField.isOpen = draft.isOpen := by
  unfold endField isOpen
  cases hfield : draft.field <;> simp [hfield]

/-- A whole token other than a message break gives no post, and closes no draft. -/
theorem take_of_not_break {kind : Mail.Kind} (hkind : kind ≠ .messageBreak) (draft : Draft)
    (text : String) :
    (draft.take kind text).2 = []
      ∧ (draft.isOpen = true → (draft.take kind text).1.isOpen = true) := by
  cases kind with
  | messageBreak => exact absurd rfl hkind
  | fieldName => exact ⟨rfl, fun _ => rfl⟩
  | fieldBody => exact ⟨rfl, fun h => by simpa [take, isOpen] using h⟩
  | messageBody =>
    refine ⟨rfl, fun h => ?_⟩
    simp only [isOpen, take, Bool.or_eq_true] at h ⊢
    rcases h with h | hline
    · exact .inl h
    · -- the line in progress only grows
      simp only [Bool.not_eq_true', List.isEmpty_eq_false_iff] at hline ⊢
      exact .inr (List.append_ne_nil_of_left_ne_nil hline _)
  | colon => exact ⟨rfl, id⟩
  | error => exact ⟨rfl, id⟩

theorem isOpen_newline {draft : Draft} (h : draft.isOpen = true) :
    draft.newline.isOpen = true := by
  unfold newline
  dsimp only
  split
  · simp [isOpen]
  · split
    · exact (isOpen_endField _).trans h
    · exact h

/-- No event but a message break gives a post, or closes a draft. -/
theorem observe_of_not_break {event : Event Mail.Kind} (h : Mail.isBreakEvent event = false)
    (draft : Draft) :
    (draft.observe event).2 = []
      ∧ (draft.isOpen = true → (draft.observe event).1.isOpen = true) := by
  cases event with
  | newline text => exact ⟨rfl, isOpen_newline⟩
  | token kind text fragment =>
    have hkind : kind ≠ .messageBreak := by
      rintro rfl
      exact absurd h (by simp [Mail.isBreakEvent])
    unfold observe
    dsimp only
    split
    · exact ⟨rfl, id⟩
    · exact take_of_not_break hkind _ _

/-- No event loses a message: what the draft has of one is given as a post, or stays. -/
theorem isOpen_le_observe (draft : Draft) (event : Event Mail.Kind) :
    draft.isOpen.toNat
      ≤ (draft.observe event).2.length + (draft.observe event).1.isOpen.toNat := by
  by_cases hbreak : Mail.isBreakEvent event = false
  · obtain ⟨-, hopen⟩ := observe_of_not_break hbreak draft
    cases hdraft : draft.isOpen with
    | false => exact Nat.zero_le _
    | true =>
      rw [hopen hdraft]
      exact Nat.le_add_left _ _
  · obtain ⟨text, fragment, rfl⟩ : ∃ text fragment,
        event = .token .messageBreak text fragment := by
      unfold Mail.isBreakEvent at hbreak
      split at hbreak
      · exact ⟨_, _, rfl⟩
      · exact absurd rfl hbreak
    cases fragment with
    | true => exact Nat.le_add_left _ _
    | false =>
      -- the post of the draft is given here
      have hgiven := length_endMessage { draft with piece := [], hasToken := true }
      exact Nat.le_add_right_of_le (Nat.le_of_eq hgiven.symm)

theorem isOpen_le_observeAll (draft : Draft) (events : List (Event Mail.Kind)) :
    draft.isOpen.toNat
      ≤ (draft.observeAll events).2.length + (draft.observeAll events).1.isOpen.toNat := by
  induction events generalizing draft with
  | nil => exact Nat.le_add_left _ _
  | cons event rest ih =>
    have hfirst := isOpen_le_observe draft event
    have hrest := ih (draft.observe event).1
    rw [observeAll_cons]
    dsimp only
    rw [List.length_append]
    omega

theorem observeAll_of_no_breaks {events : List (Event Mail.Kind)}
    (h : ∀ event ∈ events, Mail.isBreakEvent event = false) (draft : Draft) :
    (draft.observeAll events).2 = []
      ∧ (draft.isOpen = true → (draft.observeAll events).1.isOpen = true) := by
  induction events generalizing draft with
  | nil => exact ⟨rfl, id⟩
  | cons event rest ih =>
    rw [List.forall_mem_cons] at h
    obtain ⟨hnone, hopen⟩ := observe_of_not_break h.1 draft
    obtain ⟨hnone', hopen'⟩ := ih h.2 (draft.observe event).1
    rw [observeAll_cons, hnone, hnone']
    exact ⟨rfl, fun hdraft => hopen' (hopen hdraft)⟩

/-! ### Texts that are read from an open draft -/

/-- What is read on the way to a later part of the input adds to the posts, and with an open draft
it adds one or leaves the draft open. Where it is quiet, it does the latter. -/
theorem exists_gather_of_reaches {mode : Mail.Mode} {input rest : Bytes} {quiet : Prop}
    (h : Mail.Reaches mode input rest quiet) {draft : Draft} (hopen : draft.isOpen = true) :
    ∃ given later next,
      (draft.gather (Mail.eventsFrom mode input)).length
        = given + (Draft.gather later (Mail.eventsFrom next rest)).length
      ∧ 1 ≤ given + later.isOpen.toNat ∧ (quiet → given + later.isOpen.toNat = 1) := by
  obtain ⟨events, next, hevents, hquiet⟩ := h
  refine ⟨(draft.observeAll events).2.length, (draft.observeAll events).1, next, ?_, ?_, ?_⟩
  · rw [hevents, gather_append, List.length_append]
  · have hle := isOpen_le_observeAll draft events
    rwa [hopen] at hle
  · intro hq
    obtain ⟨hnone, hstays⟩ := observeAll_of_no_breaks (hquiet hq) draft
    rw [hnone, hstays hopen]
    rfl

end Draft

/-! ### What the writer leaves as it is -/

namespace Post

/-- Whether the message of the post hides a line between messages: in the content, which is quoted
by its LF lines, behind a CR; in the tag, which is not quoted, behind a CR or an LF. -/
def HidesBreak (post : Post) : Prop :=
  "\rFrom ".toList <:+: post.content.toList ∨ "\rFrom ".toList <:+: post.tag.toList
    ∨ "\nFrom ".toList <:+: post.tag.toList

instance (post : Post) : Decidable post.HidesBreak := inferInstanceAs (Decidable (_ ∨ _))

end Post

namespace Feed.Mail

open MarkupFeed.Mail (HasBreak)

/-- A part of a text that begins with a character the first half does not have is one of the
second half. -/
theorem isInfix_right {c : Char} {part text more : List Char} (hc : c ∉ text)
    (h : c :: part <:+: text ++ more) : c :: part <:+: more := by
  induction text with
  | nil => exact h
  | cons d text ih =>
    rw [List.mem_cons, not_or] at hc
    rcases List.infix_cons_iff.mp h with hstart | hrest
    · exact absurd (List.cons_prefix_cons.mp hstart).1 hc.1
    · exact ih hc.2 hrest

/-- A line separates messages only from its first character on. -/
theorem not_hasBreak_of_isLine {line : List Char} (hline : Text.IsLine line)
    (h : ¬"From ".toList <+: line) : ¬HasBreak line := by
  rintro (hstart | hpart | hpart)
  · exact h hstart
  · exact (hline '\r' (hpart.subset List.mem_cons_self)).2 rfl
  · exact (hline '\n' (hpart.subset List.mem_cons_self)).1 rfl

theorem not_isPrefix_text {field : MailField} (h : field.name ∈ fieldNames) :
    ¬"From ".toList <+: field.text.toList := by
  have hname := (@isWritable_of_mem_fieldNames field.name "" h
    ⟨Text.isTrimmed_nil, Text.isLine_nil⟩).name_octets
  have hbreak := MarkupFeed.Mail.isBreak_name hname (Utf8.encode (" " ++ field.value))
  rw [← field.encode_text, MarkupFeed.Mail.isBreak_encode] at hbreak
  intro hstart
  rw [List.isPrefixOf_iff_prefix.mpr hstart] at hbreak
  exact absurd hbreak (by decide)

/-- A header line separates messages only behind a line end in the value of its field. -/
theorem isInfix_of_hasBreak_text {field : MailField} (hname : field.name ∈ fieldNames)
    (h : HasBreak field.text.toList) :
    "\rFrom ".toList <:+: field.value.toList ∨ "\nFrom ".toList <:+: field.value.toList := by
  have hlines : ∀ name ∈ fieldNames, Text.IsLine (name ++ ": ").toList := by decide
  have hline := hlines field.name hname
  have htext : field.text.toList = (field.name ++ ": ").toList ++ field.value.toList :=
    String.toList_append
  rcases h with hstart | hcr | hlf
  · exact absurd hstart (not_isPrefix_text hname)
  · rw [htext] at hcr
    exact .inl (isInfix_right (fun hmem => (hline '\r' hmem).2 rfl) hcr)
  · rw [htext] at hlf
    exact .inr (isInfix_right (fun hmem => (hline '\n' hmem).1 rfl) hlf)

/-- The fields of the message of a post, behind its title. -/
def laterFields (post : Post) : List MailField :=
  ⟨"Date", post.time.mailDate⟩ :: ⟨"From", post.author⟩
    :: (fieldUnlessEmpty "Message-ID" post.guid ("<" ++ post.guid ++ ">")
      ++ ⟨"Score", toString post.score.toNat⟩ :: fieldUnlessEmpty "Tags" post.tag post.tag)

theorem fields_of_title {post : Post} (h : post.title ≠ "") :
    fields post = ⟨"Subject", post.title⟩ :: laterFields post := by
  rw [fields, fieldUnlessEmpty, if_neg h]
  rfl

/-- The texts of the message of a post behind its title, each without the LF at its end. -/
def laterTexts (post : Post) : List (List Char) :=
  (laterFields post).map (fun field => field.text.toList)
    ++ [] :: ((linesOf post.content.toList).map quote ++ [[]])

/-- The octets of texts with an LF at the end of each. -/
def closedOctets (texts : List (List Char)) : Bytes :=
  texts.flatMap fun text => MarkupFeed.Mail.octets text ++ [Octet.lineFeed]

theorem closedOctets_append (texts more : List (List Char)) :
    closedOctets (texts ++ more) = closedOctets texts ++ closedOctets more :=
  List.flatMap_append

theorem headerLines_eq (fields : List MailField) :
    headerLines fields = closedOctets (fields.map fun field => field.text.toList) := by
  rw [headerLines, closedOctets, List.flatMap_map]
  refine congrArg fields.flatMap (funext fun field => ?_)
  rw [Utf8.encode_line, MarkupFeed.Mail.octets, String.ofList_toList]

theorem body_eq (post : Post) :
    body post = closedOctets ((linesOf post.content.toList).map quote) := by
  rw [body, closedOctets, List.flatMap_map]
  refine congrArg (linesOf post.content.toList).flatMap (funext fun line => ?_)
  exact MarkupFeed.Mail.octets_append (quote line) ['\n']

/-- The message of a post that has a title. -/
theorem output_message_of_title {post : Post} (h : post.title ≠ "") :
    Piece.output (message post)
      = Utf8.encode (breakText post) ++ Octet.lineFeed
        :: (Utf8.encode (MailField.text ⟨"Subject", post.title⟩) ++ Octet.lineFeed
          :: closedOctets (laterTexts post)) := by
  have hlater : closedOctets (laterTexts post)
      = headerLines (laterFields post) ++ Octet.lineFeed :: (body post ++ [Octet.lineFeed]) := by
    rw [laterTexts, closedOctets_append, headerLines_eq, body_eq]
    show _ ++ Octet.lineFeed :: closedOctets _ = _
    rw [closedOctets_append]
    rfl
  rw [output_message, fields_of_title h, headerLines_cons, hlater]
  show _ ++ Octet.lineFeed :: (Utf8.encode (_ ++ "\n") ++ _ ++ _) = _
  rw [Utf8.encode_line]
  simp only [List.append_assoc, List.singleton_append]
  rfl

/-! ### Posts that hide no line between messages -/

/-- A quoted line of a content separates messages only behind a CR. -/
theorem hasBreak_quote {content line : List Char} (hline : line ∈ linesOf content)
    (h : HasBreak (quote line)) : "\rFrom ".toList <:+: content := by
  obtain ⟨part, hpart, hbegin⟩ := exists_part_of_mem_linesOf hline
  have hcontent : line <:+: content :=
    hbegin.isInfix.trans (Text.isInfix_of_mem_splitChars hpart)
  have hlf : '\n' ∉ line := by
    intro hmem
    exact absurd (Text.not_of_mem_splitChars hpart '\n' (hbegin.subset hmem)) (by decide)
  -- what is put in front of a quoted line is no line end
  have hquote : ∀ (c : Char) (rest : List Char), c ≠ '>' → c :: rest <:+: quote line →
      c :: rest <:+: line := by
    intro c rest hc hrest
    unfold quote at hrest
    split at hrest
    · exact @isInfix_right c rest ['>'] line (fun hmem => hc (List.mem_singleton.mp hmem)) hrest
    · exact hrest
  rcases h with hstart | hcr | hnl
  · rw [← List.isPrefixOf_iff_prefix, isPrefixOf_quote] at hstart
    exact absurd hstart (by decide)
  · exact (hquote '\r' _ (by decide) hcr).trans hcontent
  · exact absurd ((hquote '\n' _ (by decide) hnl).subset List.mem_cons_self) hlf

/-- A post that can be published, with its title and author in order. -/
structure IsReady (post : Post) : Prop where
  isValid : post.isValid = true
  normalize_eq : post.normalize = post

namespace IsReady

variable {post : Post}

theorem title_ne (h : IsReady post) : post.title ≠ "" := by
  have hvalid := h.isValid
  simp only [Post.isValid, Bool.and_eq_true, bne_iff_ne] at hvalid
  exact hvalid.1.1.2

theorem collapse_title (h : IsReady post) : Text.collapse post.title = post.title :=
  congrArg Post.title h.normalize_eq

theorem collapse_author (h : IsReady post) : Text.collapse post.author = post.author :=
  congrArg Post.author h.normalize_eq

/-- A guid without white space has no line end. -/
theorem isLine_guid (h : IsReady post) : Text.IsLine post.guid.toList := by
  have hvalid := h.isValid
  simp only [Post.isValid, Bool.and_eq_true, Bool.not_eq_true', List.any_eq_false] at hvalid
  intro c hc
  have hblank := hvalid.1.1.1 c hc
  constructor
  · rintro rfl
    exact hblank (by decide)
  · rintro rfl
    exact hblank (by decide)

/-- Every field behind the title but the tag is a single line. -/
theorem isLine_of_mem_laterFields (h : IsReady post) :
    ∀ field ∈ laterFields post, field.name ∈ fieldNames
      ∧ (Text.IsLine field.value.toList ∨ field = ⟨"Tags", post.tag⟩) := by
  have hunless : ∀ name value shown, name ∈ fieldNames →
      (Text.IsLine shown.toList ∨ (⟨name, shown⟩ : MailField) = ⟨"Tags", post.tag⟩) →
      ∀ field ∈ fieldUnlessEmpty name value shown, field.name ∈ fieldNames
        ∧ (Text.IsLine field.value.toList ∨ field = ⟨"Tags", post.tag⟩) := by
    intro name value shown hname hshown
    unfold fieldUnlessEmpty
    split
    · exact List.forall_mem_nil _
    · exact List.forall_mem_singleton.mpr ⟨hname, hshown⟩
  rw [laterFields, List.forall_mem_cons, List.forall_mem_cons, List.forall_mem_append,
    List.forall_mem_cons]
  refine ⟨⟨by simp [fieldNames], .inl post.time.isLine_mailDate⟩, ⟨by simp [fieldNames], .inl ?_⟩,
    ?_, ⟨by simp [fieldNames], .inl (Time.isLine_toString _)⟩, ?_⟩
  · exact (isTidy_collapse h.collapse_author).isLine
  · exact hunless _ _ _ (by decide) (.inl (isTidy_brackets h.isLine_guid).isLine)
  · exact hunless _ _ _ (by decide) (.inr rfl)

/-- The texts behind the title separate messages only where the post hides a line that does. -/
theorem hidesBreak_of_mem_laterTexts (h : IsReady post) {text : List Char}
    (htext : text ∈ laterTexts post) (hbreak : HasBreak text) : post.HidesBreak := by
  have hempty : ¬HasBreak [] := not_hasBreak_of_isLine Text.isLine_nil (by decide)
  simp only [laterTexts, List.mem_append, List.mem_cons, List.mem_map, List.not_mem_nil,
    or_false] at htext
  rcases htext with ⟨field, hfield, rfl⟩ | rfl | ⟨line, hline, rfl⟩ | rfl
  · obtain ⟨hname, hvalue⟩ := h.isLine_of_mem_laterFields field hfield
    have hpart := isInfix_of_hasBreak_text hname hbreak
    rcases hvalue with hvalue | rfl
    · rcases hpart with hcr | hlf
      · exact absurd rfl (hvalue '\r' (hcr.subset List.mem_cons_self)).2
      · exact absurd rfl (hvalue '\n' (hlf.subset List.mem_cons_self)).1
    · exact .inr hpart
  · exact absurd hbreak hempty
  · exact .inl (hasBreak_quote hline hbreak)
  · exact absurd hbreak hempty

end IsReady

end Feed.Mail

/-! ### Reading what was written -/

namespace Draft

open Feed.Mail

/-- The message of a post gives the post before it, and opens a draft with its title. -/
theorem gather_messageHead (draft : Draft) (mode : Mail.Mode) {post : Post} (h : IsReady post)
    (rest : Bytes) :
    draft.gather (Mail.eventsFrom mode (Feed.Piece.output (message post) ++ rest))
      = draft.endMessage.2 ++ (afterFields [⟨"Subject", post.title⟩]).gather
          (Mail.eventsFrom .headers (closedOctets (laterTexts post) ++ rest)) := by
  have hsubject : MailField.IsWritable ⟨"Subject", post.title⟩ :=
    isWritable_of_mem_fieldNames (by decide) (isTidy_collapse h.collapse_title)
  have hline : Bytes.IsLine (Utf8.encode (MailField.text ⟨"Subject", post.title⟩)) :=
    Utf8.isLine_encode hsubject.isLine_text
  have hmode : Mail.lineMode .headers (Utf8.encode (MailField.text ⟨"Subject", post.title⟩))
      = .headers := by
    rw [MailField.encode_text]
    exact Mail.lineMode_header hsubject.name_octets _
  have htitle : (afterFields []).takeLine .headers
        (Utf8.encode (MailField.text ⟨"Subject", post.title⟩))
      = (afterFields [⟨"Subject", post.title⟩], []) :=
    takeLine_field (List.forall_mem_nil _) hsubject
  -- the break line, and then the line of the title
  rw [output_message_of_title h.title_ne]
  simp only [List.append_assoc, List.cons_append]
  rw [gather_line _ _ (Utf8.isLine_encode (isLine_breakText post)),
    takeLine_break _ _ (isBreak_breakText post), Mail.lineMode_break _ (isBreak_breakText post)]
  show _ ++ (afterFields []).gather _ = _
  rw [gather_line _ _ hline, htitle, hmode, List.nil_append]

/-- The message of a post gives the post before it. Then it gives one itself, or leaves the draft
open, and if it hides no line between messages it does the latter. -/
theorem exists_gather_message (draft : Draft) (mode : Mail.Mode) {post : Post} (h : IsReady post)
    (rest : Bytes) :
    ∃ given later next,
      (draft.gather (Mail.eventsFrom mode (Feed.Piece.output (message post) ++ rest))).length
        = draft.isOpen.toNat + (given + (Draft.gather later (Mail.eventsFrom next rest)).length)
      ∧ 1 ≤ given + later.isOpen.toNat
      ∧ (¬post.HidesBreak → given + later.isOpen.toNat = 1) := by
  have hreaches : Mail.Reaches .headers (closedOctets (laterTexts post) ++ rest) rest
      (¬post.HidesBreak) :=
    (Mail.reaches_texts .headers (laterTexts post) rest).mono
      fun hhides text htext hbreak => hhides (h.hidesBreak_of_mem_laterTexts htext hbreak)
  have hopen : (afterFields [⟨"Subject", post.title⟩]).isOpen = true := rfl
  obtain ⟨given, later, next, hlength, hone, hquiet⟩ := exists_gather_of_reaches hreaches hopen
  refine ⟨given, later, next, ?_, hone, hquiet⟩
  rw [gather_messageHead draft mode h, List.length_append, length_endMessage, hlength]

theorem le_length_gather_output (draft : Draft) (mode : Mail.Mode) (written : Nat)
    {posts : List Post} (h : ∀ post ∈ posts, IsReady post) :
    draft.isOpen.toNat + posts.length
      ≤ (draft.gather (Mail.eventsFrom mode
          (Feed.Form.mail.outputAfter written posts))).length := by
  induction posts generalizing draft mode written with
  | nil => exact Nat.le_of_eq (length_endMessage draft).symm
  | cons post rest ih =>
    rw [List.forall_mem_cons] at h
    unfold Feed.Form.outputAfter
    obtain ⟨given, later, next, hlength, hone, -⟩ := draft.exists_gather_message mode h.1
      (Feed.Form.mail.outputAfter (written + 1) rest)
    have hrest := ih later next (written + 1) h.2
    rw [List.length_cons]
    refine Nat.le_trans ?_ (Nat.le_of_eq hlength.symm)
    omega

theorem length_gather_output (draft : Draft) (mode : Mail.Mode) (written : Nat)
    {posts : List Post} (h : ∀ post ∈ posts, IsReady post ∧ ¬post.HidesBreak) :
    (draft.gather (Mail.eventsFrom mode (Feed.Form.mail.outputAfter written posts))).length
      = draft.isOpen.toNat + posts.length := by
  induction posts generalizing draft mode written with
  | nil => exact length_endMessage draft
  | cons post rest ih =>
    rw [List.forall_mem_cons] at h
    unfold Feed.Form.outputAfter
    obtain ⟨given, later, next, hlength, -, hquiet⟩ := draft.exists_gather_message mode h.1.1
      (Feed.Form.mail.outputAfter (written + 1) rest)
    have hrest := ih later next (written + 1) h.2
    have hgiven := hquiet h.1.2
    rw [List.length_cons]
    refine hlength.trans ?_
    omega

end Draft

namespace Mailbox

open Feed

/-- Posts that can be published, with title and author in order and times that mail can state, are
written without an error, and no post is lost by reading them again. None is made up either, unless
the content or the tag of one hides a line between messages. -/
theorem length_posts_written (input : List Post)
    (h : ∀ post ∈ input, post.isValid = true ∧ post.normalize = post
      ∧ post.time.hasMailDate = true) :
    let written := Pipeline.postAll (Writer.channel Sink.unlimited .mail) ⟨[], { memory := () }⟩
      input
    written.error = none
      ∧ input.length ≤ (posts written.state.state.output).length
      ∧ ((∀ post ∈ input, ¬post.HidesBreak) →
        (posts written.state.state.output).length = input.length) := by
  intro written
  have hready : ∀ post ∈ input, Mail.IsReady post :=
    fun post hpost => ⟨(h post hpost).1, (h post hpost).2.1⟩
  obtain ⟨herror, houtput⟩ := output_postAll { memory := () } fun post hpost => (h post hpost).2.2
  have hread : posts written.state.state.output
      = ({} : Draft).gather (MarkupFeed.Mail.eventsFrom .headers
          (Form.mail.outputAfter 0 input)) := by
    rw [houtput, posts, posts_readAll, List.flatten_singleton]
    rfl
  rw [hread]
  refine ⟨herror, ?_, ?_⟩
  · have hle := Draft.le_length_gather_output {} .headers 0 hready
    exact Nat.le_trans (Nat.le_add_left _ _) hle
  · intro hhides
    have hlength := Draft.length_gather_output {} .headers 0
      fun post hpost => ⟨hready post hpost, hhides post hpost⟩
    exact hlength.trans (Nat.zero_add _)

/-- Two posts with content that is quoted and with line ends in content and tag. -/
theorem length_posts_quoted :
    let input : List Post :=
      [{ guid := "g", title := "t", author := "a", content := "From x\n>From y\r\nz\r" },
        { title := "From u", author := "b c", content := "\r\n", tag := "v\n\nw\rFrom" }]
    (∀ post ∈ input, post.isValid = true ∧ post.normalize = post
        ∧ post.time.hasMailDate = true)
      ∧ (∀ post ∈ input, ¬post.HidesBreak)
      ∧ let written := Pipeline.postAll (Writer.channel Sink.unlimited .mail)
          ⟨[], { memory := () }⟩ input
        written.error = none ∧ (posts written.state.state.output).length = input.length := by
  intro input
  have h : ∀ post ∈ input, post.isValid = true ∧ post.normalize = post
      ∧ post.time.hasMailDate = true := by decide +kernel
  have hhides : ∀ post ∈ input, ¬post.HidesBreak := by decide +kernel
  obtain ⟨herror, -, hlength⟩ := length_posts_written input h
  exact ⟨h, hhides, herror, hlength hhides⟩

/-- A post that is read as two: behind the CR in its content a second message begins. -/
theorem posts_gained :
    let input : List Post :=
      [{ guid := "g", title := "t", author := "a", content := "x\rFrom y\rSubject: z" }]
    (∀ post ∈ input, post.isValid = true ∧ post.normalize = post
        ∧ post.time.hasMailDate = true)
      ∧ let written := Pipeline.postAll (Writer.channel Sink.unlimited .mail)
          ⟨[], { memory := () }⟩ input
        written.error = none ∧ (posts written.state.state.output).length = 2 := by
  decide +kernel

end Mailbox

end MarkupFeed
