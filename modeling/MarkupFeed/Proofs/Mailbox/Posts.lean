import MarkupFeed.Proofs.Feed.Mail
import MarkupFeed.Proofs.Mailbox.Reading
import MarkupFeed.Proofs.Time.Mail

/-!
# What all posts of mailboxes are like

What all posts of mailboxes are like, whatever the input: `isMail_of_mem_readAll`.

No token has an octet of a line end, so that no text gathered from tokens has a line break
(`Draft.IsSound`). Field values are trimmed, title and author are collapsed, and the content is made
of lines of which the last one is not empty.
-/

namespace MarkupFeed

/-- Whether the character is one of those around a guid. -/
def MailField.isBracket (c : Char) : Bool := c == '<' || c == '>'

/-- A text in one line that is trimmed. -/
structure Text.IsTidy (p : Char → Bool) (text : String) : Prop where
  isTrimmed : Text.IsTrimmed p text.toList
  isLine : Text.IsLine text.toList

/-- What the fields of a message make of a post. -/
structure Post.HasMailFields (post : Post) : Prop where
  guid : Text.IsTidy MailField.isBracket post.guid
  tag : Text.IsTidy Text.isBlank post.tag
  time : post.time.IsWhole

/-- A post as it comes out of a mailbox. -/
structure Post.IsMail (post : Post) : Prop extends post.HasMailFields where
  title : Text.collapse post.title = post.title
  author : Text.collapse post.author = post.author
  content : Feed.Mail.IsContent post.content

/-! ### Fields -/

namespace MailField

/-- A field that is complete: its value is trimmed. -/
def IsTidy (field : MailField) : Prop := Text.IsTidy Text.isBlank field.value

theorem isTidy_trimChars (p : Char → Bool) {text : List Char} (h : Text.IsLine text) :
    Text.IsTidy p (String.ofList (Text.trimChars p text)) := by
  constructor
  · rw [String.toList_ofList]
    exact Text.isTrimmed_trimChars p text
  · rw [String.toList_ofList]
    exact Text.isLine_of_subset h fun _ => Text.mem_of_mem_trimChars

theorem isTidy_dropBrackets {guid : String} (h : Text.IsLine guid.toList) :
    Text.IsTidy isBracket (dropBrackets guid) :=
  isTidy_trimChars isBracket h

theorem isTidy_trim {text : String} (h : Text.IsLine text.toList) :
    Text.IsTidy Text.isBlank (Text.trim text) :=
  isTidy_trimChars Text.isBlank h

/-- A field keeps the post in order. -/
theorem hasMailFields_apply {post : Post} (h : post.HasMailFields) {field : MailField}
    (hfield : field.IsTidy) : (apply post field).HasMailFields := by
  rw [apply]
  split
  · exact ⟨h.guid, h.tag, h.time⟩
  split
  · exact ⟨h.guid, h.tag, h.time⟩
  split
  · exact ⟨isTidy_dropBrackets hfield.isLine, h.tag, h.time⟩
  split
  · -- a date that cannot be read leaves the time as it was
    refine ⟨h.guid, h.tag, ?_⟩
    show ((Time.Mail.read? field.value).getD post.time).IsWhole
    cases hread : Time.Mail.read? field.value with
    | none => exact h.time
    | some time => exact Time.Mail.isWhole_of_read? hread
  split
  · exact ⟨h.guid, h.tag, h.time⟩
  split
  · exact ⟨h.guid, hfield, h.time⟩
  · exact h

theorem hasMailFields_foldl {fields : List MailField} (hfields : ∀ field ∈ fields, field.IsTidy)
    {post : Post} (h : post.HasMailFields) : (fields.foldl apply post).HasMailFields := by
  induction fields generalizing post with
  | nil => exact h
  | cons field rest ih =>
    rw [List.forall_mem_cons] at hfields
    exact ih hfields.2 (hasMailFields_apply h hfields.1)

theorem isLine_append {field : MailField} {part : String} (h : Text.IsLine field.value.toList)
    (hpart : Text.IsLine part.toList) : Text.IsLine (field.append part).value.toList := by
  unfold append
  split
  · exact hpart
  · rw [String.toList_append, String.toList_append, Text.isLine_append, Text.isLine_append]
    refine ⟨⟨h, ?_⟩, hpart⟩
    intro c hc
    rw [List.mem_singleton.mp hc]
    exact ⟨by decide, by decide⟩

end MailField

theorem Post.hasMailFields_default : ({} : Post).HasMailFields where
  guid := ⟨Text.isTrimmed_nil, Text.isLine_nil⟩
  tag := ⟨Text.isTrimmed_nil, Text.isLine_nil⟩
  time := .inl rfl

/-! ### Lines of the body -/

theorem isContent_content {lines : List (List Char)} (h : ∀ line ∈ lines, Text.IsLine line) :
    Feed.Mail.IsContent (Draft.content lines) := by
  refine ⟨(Text.dropEndWhile List.isEmpty lines).map Feed.Mail.unquote, ?_, ?_, rfl⟩
  · rw [List.forall_mem_map]
    intro line hline
    exact Feed.Mail.isLine_unquote (h line ((Text.isPrefix_dropEndWhile lines).subset hline))
  · -- the empty lines at the end are dropped, and unquoting leaves no line empty
    rw [List.getLast?_map]
    intro hlast
    obtain ⟨line, hline, hempty⟩ := Option.map_eq_some_iff.mp hlast
    have hne : line.isEmpty = false := Text.not_of_mem_getLast?_dropEndWhile hline
    exact Feed.Mail.unquote_ne_nil (by simpa using hne) hempty

/-! ### Drafts -/

namespace Draft

/-- No text of a draft has a line break, and the values of complete fields are trimmed. -/
structure IsSound (draft : Draft) : Prop where
  piece : draft.piece.IsLine
  field : ∀ field ∈ draft.field, Text.IsLine field.value.toList
  headers : ∀ field ∈ draft.headers, field.IsTidy
  lines : ∀ line ∈ draft.lines, Text.IsLine line
  line : Text.IsLine draft.line

theorem isSound_default : ({} : Draft).IsSound where
  piece := Bytes.isLine_nil
  field := fun _ h => absurd h (by simp)
  headers := List.forall_mem_nil _
  lines := List.forall_mem_nil _
  line := Text.isLine_nil

theorem IsSound.endField {draft : Draft} (h : draft.IsSound) : draft.endField.IsSound := by
  unfold Draft.endField
  split
  · exact h
  · next field hfield =>
    refine ⟨h.piece, fun _ hmem => absurd hmem (by simp), ?_, h.lines, h.line⟩
    rw [List.forall_mem_append, List.forall_mem_singleton]
    exact ⟨h.headers, MailField.isTidy_trim (h.field field hfield)⟩

theorem isMail_toPost {headers : List MailField} (hheaders : ∀ field ∈ headers, field.IsTidy)
    {lines : List (List Char)} (hlines : ∀ line ∈ lines, Text.IsLine line) :
    (toPost headers lines).IsMail := by
  obtain ⟨hguid, htag, htime⟩ :=
    MailField.hasMailFields_foldl hheaders Post.hasMailFields_default
  exact ⟨⟨hguid, htag, htime⟩, Text.collapse_collapse _, Text.collapse_collapse _,
    isContent_content hlines⟩

theorem IsSound.endMessage {draft : Draft} (h : draft.IsSound) :
    draft.endMessage.1.IsSound ∧ ∀ post ∈ draft.endMessage.2, post.IsMail := by
  have hclosed := h.endField
  have hnext : ({ piece := draft.piece, hasToken := draft.hasToken } : Draft).IsSound :=
    { isSound_default with piece := h.piece }
  rw [Draft.endMessage]
  split
  · exact ⟨hnext, List.forall_mem_nil _⟩
  · have hlines : ∀ line ∈ (draft.endField.line :: draft.endField.lines).reverse,
        Text.IsLine line := by
      intro line hline
      rw [List.mem_reverse, List.mem_cons] at hline
      rcases hline with rfl | hline
      · exact hclosed.line
      · exact hclosed.lines line hline
    exact ⟨hnext, List.forall_mem_singleton.mpr (isMail_toPost hclosed.headers hlines)⟩

theorem IsSound.take {draft : Draft} (h : draft.IsSound) (kind : Mail.Kind) {text : String}
    (htext : Text.IsLine text.toList) :
    (draft.take kind text).1.IsSound ∧ ∀ post ∈ (draft.take kind text).2, post.IsMail := by
  have hnone : ∀ post ∈ ([] : List Post), post.IsMail := List.forall_mem_nil _
  cases kind with
  | fieldName =>
    refine ⟨{ h.endField with field := ?_ }, hnone⟩
    intro field hfield
    rw [← Option.mem_some.mp hfield]
    exact Text.isLine_nil
  | fieldBody =>
    refine ⟨{ h with field := ?_ }, hnone⟩
    intro field hfield
    obtain ⟨before, hbefore, rfl⟩ := Option.map_eq_some_iff.mp hfield
    exact MailField.isLine_append (h.field before hbefore) (MailField.isTidy_trim htext).isLine
  | messageBody =>
    exact ⟨{ h with line := Text.isLine_append.mpr ⟨h.line, htext⟩ }, hnone⟩
  | messageBreak => exact h.endMessage
  | colon => exact ⟨h, hnone⟩
  | error => exact ⟨h, hnone⟩

theorem IsSound.newline {draft : Draft} (h : draft.IsSound) : draft.newline.IsSound := by
  unfold Draft.newline
  dsimp only
  split
  · refine { h with lines := ?_, line := Text.isLine_nil }
    exact List.forall_mem_cons.mpr ⟨h.line, h.lines⟩
  split
  · have hnext : ({ draft with hasToken := false } : Draft).IsSound := { h with }
    exact { hnext.endField with }
  · exact { h with }

theorem IsSound.observe {draft : Draft} (h : draft.IsSound) {event : Event Mail.Kind}
    (hevent : event.IsInLine) :
    (draft.observe event).1.IsSound ∧ ∀ post ∈ (draft.observe event).2, post.IsMail := by
  have hnone : ∀ post ∈ ([] : List Post), post.IsMail := List.forall_mem_nil _
  cases event with
  | token kind text fragment =>
    have hwhole : (draft.piece ++ text).IsLine := Bytes.isLine_append.mpr ⟨h.piece, hevent⟩
    cases fragment with
    | true => exact ⟨{ h with piece := hwhole }, hnone⟩
    | false =>
      have hnext : ({ draft with hasToken := true, piece := [] } : Draft).IsSound :=
        { h with piece := Bytes.isLine_nil }
      exact hnext.take kind (Utf8.isLine_decodeLossy hwhole)
  | newline text => exact ⟨h.newline, hnone⟩

theorem isMail_of_mem_gather {draft : Draft} (h : draft.IsSound) {events : List (Event Mail.Kind)}
    (hevents : ∀ event ∈ events, event.IsInLine) : ∀ post ∈ draft.gather events, post.IsMail := by
  induction events generalizing draft with
  | nil => exact h.endMessage.2
  | cons event rest ih =>
    rw [List.forall_mem_cons] at hevents
    obtain ⟨hnext, hposts⟩ := h.observe hevents.1
    rw [gather_cons]
    exact List.forall_mem_append.mpr ⟨hposts, ih hnext hevents.2⟩

end Draft

namespace Mailbox

/-- What all posts of mailboxes are like. -/
theorem isMail_of_mem_readAll (parts : List Bytes) :
    ∀ post ∈ (({} : Mailbox).readAll parts).2, post.IsMail := by
  rw [posts_readAll]
  exact Draft.isMail_of_mem_gather Draft.isSound_default
    (Reading.isInLine_events (r := Mail.lineStart .headers) rfl rfl Bytes.isLine_nil _)

end Mailbox

end MarkupFeed
