import MarkupFeed.Feed.Writer
import MarkupFeed.Proofs.Mailbox.Posts

/-!
# The message of a post is read back

Messages are read back from what is written for their posts.

A message is a break line, a list of fields, an empty line and the quoted lines of the content
(`output_message`). Each kind of line does one thing to a draft (`takeLine_break`, `takeLine_field`,
`takeLine_blank`, `takeLine_body`), and the fields make the post again (`foldl_fields`). Main
statement: `gather_output`.
-/

namespace MarkupFeed

/-! ### Fields -/

namespace MailField

/-- The header line of a field, without its end. -/
def text (field : MailField) : String := field.name ++ ": " ++ field.value

/-- A field that can be read back from its header line. -/
structure IsWritable (field : MailField) : Prop where
  name_ne : Utf8.encode field.name ≠ []
  name_octets : ∀ b ∈ Utf8.encode field.name, Mail.isFieldNameOctet b = true
  name_trimmed : Text.trim field.name = field.name
  name_line : Text.IsLine field.name.toList
  isTidy : field.IsTidy

/-- The octets of a header line. -/
theorem encode_text (field : MailField) :
    Utf8.encode field.text
      = Utf8.encode field.name ++ ':'.toUInt8 :: Utf8.encode (" " ++ field.value) := by
  rw [text, Utf8.encode_append, Utf8.encode_append, Utf8.encode_append, List.append_assoc]
  rfl

theorem IsWritable.isLine_text {field : MailField} (h : field.IsWritable) :
    Text.IsLine field.text.toList :=
  Text.isLine_toList_append.mpr
    ⟨Text.isLine_toList_append.mpr ⟨h.name_line, by decide⟩, h.isTidy.isLine⟩

end MailField

/-! ### What a line does to a draft -/

namespace Draft

/-- The draft after fields of a header. -/
def afterFields (fields : List MailField) : Draft :=
  { field := fields.getLast?, headers := fields.dropLast }

/-- The draft in the body, after fields and lines. -/
def afterLines (fields : List MailField) (lines : List (List Char)) : Draft :=
  { headers := fields, inBody := true, lines := lines.reverse }

/-- The field in progress goes to the others, as it stands. -/
theorem endField_of_tidy {draft : Draft} {fields : List MailField}
    (hfields : ∀ field ∈ fields, field.IsTidy) (hfield : draft.field = fields.getLast?)
    (hheaders : draft.headers = fields.dropLast) :
    draft.endField = { draft with field := none, headers := fields } := by
  obtain ⟨piece, field, headers, inBody, lines, line, hasToken⟩ := draft
  obtain rfl : field = fields.getLast? := hfield
  obtain rfl : headers = fields.dropLast := hheaders
  by_cases hne : fields = []
  · rw [hne]
    rfl
  · have htrim : Text.trim (fields.getLast hne).value = (fields.getLast hne).value := by
      rw [Text.trim, (hfields _ (List.getLast_mem hne)).isTrimmed.trimChars_eq,
        String.ofList_toList]
    rw [endField, List.getLast?_eq_some_getLast hne]
    dsimp only
    rw [htrim, List.dropLast_concat_getLast]

theorem afterFields_concat (fields : List MailField) (field : MailField) :
    afterFields (fields ++ [field]) = { field := some field, headers := fields } := by
  rw [afterFields, List.getLast?_concat, List.dropLast_concat]

/-- A whole token between two tokens. -/
theorem observe_token {draft : Draft} (hpiece : draft.piece = []) (kind : Mail.Kind)
    (text : Bytes) :
    draft.observe (.token kind text false)
      = ({ draft with hasToken := true } : Draft).take kind (Utf8.decodeLossy text) := by
  obtain ⟨piece, field, headers, inBody, lines, line, hasToken⟩ := draft
  subst hpiece
  rfl

theorem observe_encode {draft : Draft} (hpiece : draft.piece = []) (kind : Mail.Kind)
    (text : String) :
    draft.observe (.token kind (Utf8.encode text) false)
      = ({ draft with piece := [], hasToken := true } : Draft).take kind text := by
  rw [observe_token hpiece, Utf8.decodeLossy_encode, hpiece]

/-- A field is taken from its header line. -/
theorem takeLine_field {fields : List MailField} (hfields : ∀ field ∈ fields, field.IsTidy)
    {field : MailField} (h : field.IsWritable) :
    (afterFields fields).takeLine .headers (Utf8.encode field.text)
      = (afterFields (fields ++ [field]), []) := by
  have hbody : Mail.bodyTokens (Utf8.encode (" " ++ field.value))
      = [.token .fieldBody (Utf8.encode (" " ++ field.value)) false] := by
    rw [Utf8.encode_append]
    rfl
  have hname : (afterFields fields).observe (.token .fieldName (Utf8.encode field.name) false)
      = ({ field := some ⟨field.name, ""⟩, headers := fields, hasToken := true }, []) := by
    rw [observe_encode rfl, take, endField_of_tidy hfields rfl rfl, h.name_trimmed]
    rfl
  have hvalue : ({ field := some ⟨field.name, ""⟩, headers := fields, hasToken := true } :
        Draft).observe (.token .fieldBody (Utf8.encode (" " ++ field.value)) false)
      = ({ field := some field, headers := fields, hasToken := true }, []) := by
    rw [observe_encode rfl, take, Text.trim_space field.value h.isTidy.isTrimmed]
    rfl
  have hcolon : ({ field := some ⟨field.name, ""⟩, headers := fields, hasToken := true } :
        Draft).observe (.token .colon [':'.toUInt8] false)
      = ({ field := some ⟨field.name, ""⟩, headers := fields, hasToken := true }, []) := rfl
  -- a name, a colon, a body and a line end
  rw [takeLine, field.encode_text, Mail.lineTokens_header h.name_ne h.name_octets, hbody,
    afterFields_concat]
  show observeAll _ [_, _, _, _] = _
  rw [observeAll_cons, hname, observeAll_cons, hcolon, observeAll_cons, hvalue]
  rfl

/-- The empty line after fields begins the body. -/
theorem takeLine_blank {fields : List MailField} (hne : fields ≠ [])
    (hfields : ∀ field ∈ fields, field.IsTidy) :
    (afterFields fields).takeLine .headers [] = (afterLines fields [], []) := by
  have hsome : (afterFields fields).field.isSome = true := by
    rw [afterFields, List.getLast?_eq_some_getLast hne]
    rfl
  have hnewline : (afterFields fields).newline
      = { (afterFields fields).endField with inBody := true } := by
    rw [newline, hsome]
    rfl
  show ((afterFields fields).newline, _) = _
  rw [hnewline, endField_of_tidy hfields rfl rfl]
  rfl

/-- A line of the body is taken as it stands, unless it separates messages. -/
theorem takeLine_body (fields : List MailField) (lines : List (List Char)) {line : List Char}
    (h : "From ".toList.isPrefixOf line = false) :
    (afterLines fields lines).takeLine .body (Utf8.encode (String.ofList line))
      = (afterLines fields (lines ++ [line]), []) := by
  have hafter : afterLines fields (lines ++ [line])
      = { headers := fields, inBody := true, lines := line :: lines.reverse } := by
    rw [afterLines, List.reverse_concat]
  rw [hafter]
  by_cases hempty : line = []
  · rw [hempty]
    rfl
  · have hoctets : Utf8.encode (String.ofList line) ≠ [] := by
      intro hnil
      have hline := Utf8.decodeChars_encode (String.ofList line)
      rw [hnil, String.toList_ofList] at hline
      exact hempty hline.symm
    have htokens : Mail.lineTokens .body (Utf8.encode (String.ofList line))
        = [.token .messageBody (Utf8.encode (String.ofList line)) false] := by
      have hbreak := Mail.isBreak_encode (String.ofList line)
      have hline : (String.ofList line).toList = line := String.toList_ofList
      rw [hline, h] at hbreak
      obtain ⟨b, rest, hcons⟩ := List.exists_cons_of_ne_nil hoctets
      rw [hcons] at hbreak ⊢
      rw [Mail.lineTokens_cons, hbreak]
      rfl
    -- the text of the token becomes the line, and the line end puts it to the others
    rw [takeLine, htokens]
    show observeAll _ [_, _] = _
    rw [observeAll_cons, observe_encode rfl, take, String.toList_ofList]
    rfl

/-- The token in progress, and whether there is one, say nothing about the message. -/
theorem endMessage_token (draft : Draft) :
    ({ draft with piece := [], hasToken := true } : Draft).endMessage
      = ({ hasToken := true }, draft.endMessage.2) := by
  have hclosed : ({ draft with piece := [], hasToken := true } : Draft).endField
      = { draft.endField with piece := [], hasToken := true } := by
    obtain ⟨piece, field, headers, inBody, lines, line, hasToken⟩ := draft
    cases field <;> rfl
  rw [endMessage, endMessage, hclosed]
  by_cases hempty : (draft.endField.headers.isEmpty && draft.endField.lines.isEmpty
      && draft.endField.line.isEmpty) = true
  · rw [if_pos hempty, if_pos hempty]
  · rw [if_neg hempty, if_neg hempty]

/-- A line that separates messages closes the message before it. -/
theorem takeLine_break (draft : Draft) (mode : Mail.Mode) {text : Bytes}
    (h : Mail.isBreak text = true) :
    draft.takeLine mode text = ({}, draft.endMessage.2) := by
  cases text with
  | nil => exact absurd h (by decide)
  | cons b rest =>
    have hobserve : draft.observe (.token .messageBreak (b :: rest) false)
        = ({ hasToken := true }, draft.endMessage.2) := endMessage_token draft
    rw [takeLine, Mail.lineTokens_cons, if_pos h]
    show observeAll _ [_, _] = _
    rw [observeAll_cons, hobserve]
    exact Prod.ext rfl (List.append_nil _)

end Draft

/-! ### What is written for a post -/

namespace Feed.Mail

/-- A field, unless what it is for is empty. -/
def fieldUnlessEmpty (name value shown : String) : List MailField :=
  if value = "" then [] else [⟨name, shown⟩]

/-- The fields of the message of a post. -/
def fields (post : Post) : List MailField :=
  fieldUnlessEmpty "Subject" post.title post.title
    ++ (⟨"Date", post.time.mailDate⟩ :: ⟨"From", post.author⟩
    :: (fieldUnlessEmpty "Message-ID" post.guid ("<" ++ post.guid ++ ">")
      ++ ⟨"Score", toString post.score.toNat⟩ :: fieldUnlessEmpty "Tags" post.tag post.tag))

/-- The line in front of the message of a post. -/
def breakText (post : Post) : String := "From " ++ sender post ++ " " ++ post.time.delivery

/-- The header lines of fields. -/
def headerLines (fields : List MailField) : Bytes :=
  fields.flatMap fun field => Utf8.encode (field.text ++ "\n")

theorem headerLines_append (fields more : List MailField) :
    headerLines (fields ++ more) = headerLines fields ++ headerLines more :=
  List.flatMap_append

theorem headerLines_cons (field : MailField) (more : List MailField) :
    headerLines (field :: more) = header field.name field.value ++ headerLines more :=
  List.flatMap_cons

theorem headerUnlessEmpty_eq (name value : String) (shown : String → String) :
    headerUnlessEmpty name value shown
      = headerLines (fieldUnlessEmpty name value (shown value)) := by
  rw [headerUnlessEmpty, fieldUnlessEmpty]
  split
  · rfl
  · exact (List.append_nil _).symm

/-- A message line by line. -/
theorem output_message (post : Post) :
    Piece.output (message post)
      = Utf8.encode (breakText post) ++ Octet.lineFeed
        :: (headerLines (fields post) ++ Octet.lineFeed :: (body post ++ [Octet.lineFeed])) := by
  have hhead : messageHead post = Utf8.encode (breakText post) ++ [Octet.lineFeed]
      ++ headerLines (fieldUnlessEmpty "Subject" post.title post.title) := by
    rw [messageHead, headerUnlessEmpty_eq, ← Utf8.encode_line]
    rfl
  have htail : laterHeaders post
      = headerLines (⟨"Date", post.time.mailDate⟩ :: ⟨"From", post.author⟩
        :: (fieldUnlessEmpty "Message-ID" post.guid ("<" ++ post.guid ++ ">")
          ++ ⟨"Score", toString post.score.toNat⟩
            :: fieldUnlessEmpty "Tags" post.tag post.tag)) := by
    rw [laterHeaders, headerLines_cons, headerLines_cons, headerLines_append, headerLines_cons,
      headerUnlessEmpty_eq, headerUnlessEmpty_eq]
    simp only [List.append_assoc, id]
  have hpieces : Piece.output (message post) = messageHead post ++ messageTail post := by
    simp [Piece.output, message, Piece.octets]
  rw [hpieces, hhead, messageTail, htail, fields, headerLines_append]
  simp only [List.append_assoc, List.cons_append, List.nil_append]

end Feed.Mail

/-! ### Reading it back -/

namespace Draft

open Feed.Mail

/-- Header lines are taken one after the other. -/
theorem gather_headerLines {fields more : List MailField} (hfields : ∀ field ∈ fields, field.IsTidy)
    (hmore : ∀ field ∈ more, field.IsWritable) (rest : Bytes) :
    (afterFields fields).gather (Mail.eventsFrom .headers (headerLines more ++ rest))
      = (afterFields (fields ++ more)).gather (Mail.eventsFrom .headers rest) := by
  induction more generalizing fields with
  | nil =>
    rw [List.append_nil]
    rfl
  | cons field more ih =>
    rw [List.forall_mem_cons] at hmore
    have hline : Bytes.IsLine (Utf8.encode field.text) := Utf8.isLine_encode hmore.1.isLine_text
    have hmode : Mail.lineMode .headers (Utf8.encode field.text) = .headers := by
      rw [field.encode_text]
      exact Mail.lineMode_header hmore.1.name_octets _
    have htidy : ∀ other ∈ fields ++ [field], other.IsTidy :=
      List.forall_mem_append.mpr ⟨hfields, List.forall_mem_singleton.mpr hmore.1.isTidy⟩
    show gather _ (Mail.eventsFrom .headers ((Utf8.encode (field.text ++ "\n") ++ headerLines more)
      ++ rest)) = _
    rw [Utf8.encode_line, List.append_assoc, List.append_assoc, List.singleton_append,
      gather_line _ _ hline, takeLine_field hfields hmore.1, hmode, List.nil_append,
      ih htidy hmore.2, List.append_assoc]
    rfl

/-- Quoted lines are taken one after the other. -/
theorem gather_lines (fields : List MailField) (lines : List (List Char))
    {more : List (List Char)} (hmore : ∀ line ∈ more, Text.IsLine line) (rest : Bytes) :
    (afterLines fields lines).gather (Mail.eventsFrom .body
        ((more.flatMap fun line => Utf8.encode (String.ofList (quote line ++ ['\n']))) ++ rest))
      = (afterLines fields (lines ++ more.map quote)).gather (Mail.eventsFrom .body rest) := by
  induction more generalizing lines with
  | nil =>
    rw [List.map_nil, List.append_nil]
    rfl
  | cons line more ih =>
    rw [List.forall_mem_cons] at hmore
    have hline : Bytes.IsLine (Utf8.encode (String.ofList (quote line))) := by
      refine Utf8.isLine_encode ?_
      rw [String.toList_ofList]
      exact isLine_quote hmore.1
    have hmode : Mail.lineMode .body (Utf8.encode (String.ofList (quote line))) = .body := by
      have hbreak := Mail.isBreak_encode (String.ofList (quote line))
      have htext : (String.ofList (quote line)).toList = quote line := String.toList_ofList
      rw [htext, isPrefixOf_quote] at hbreak
      rw [Mail.lineMode, hbreak]
      split <;> rfl
    have hend : String.ofList (quote line ++ ['\n']) = String.ofList (quote line) ++ "\n" :=
      String.ofList_append
    rw [List.flatMap_cons, hend, Utf8.encode_line, List.append_assoc, List.append_assoc,
      List.singleton_append, gather_line _ _ hline, takeLine_body _ _ (isPrefixOf_quote line),
      hmode, List.nil_append, ih _ hmore.2, List.append_assoc]
    rfl

end Draft

/-! ### Fields of a post -/

namespace Feed.Mail

open MailField

/-- The names of the fields that are written. -/
def fieldNames : List String := ["Subject", "Date", "From", "Message-ID", "Score", "Tags"]

theorem isWritable_of_mem_fieldNames {name value : String} (hname : name ∈ fieldNames)
    (hvalue : Text.IsTidy Text.isBlank value) : IsWritable ⟨name, value⟩ := by
  have hnames : ∀ name ∈ fieldNames, Utf8.encode name ≠ []
      ∧ (Utf8.encode name).all Mail.isFieldNameOctet = true ∧ Text.trim name = name
      ∧ Text.IsLine name.toList := by decide
  obtain ⟨hne, hoctets, htrim, hline⟩ := hnames name hname
  exact ⟨hne, List.all_eq_true.mp hoctets, htrim, hline, hvalue⟩

theorem isTidy_collapse {text : String} (h : Text.collapse text = text) :
    Text.IsTidy Text.isBlank text := by
  rw [← h]
  exact ⟨Text.isTrimmed_collapse text, Text.isLine_joinWords ⟨by decide, by decide⟩ text⟩

theorem isTidy_brackets {guid : String} (h : Text.IsLine guid.toList) :
    Text.IsTidy Text.isBlank ("<" ++ guid ++ ">") := by
  refine ⟨⟨?_, ?_⟩, ?_⟩
  · intro c hc
    rw [String.toList_append, String.toList_append] at hc
    obtain rfl : '<' = c := Option.some.inj hc
    decide
  · intro c hc
    rw [String.toList_append, Option.mem_def, List.getLast?_append] at hc
    obtain rfl : '>' = c := Option.some.inj hc
    decide
  · refine Text.isLine_toList_append.mpr ⟨Text.isLine_toList_append.mpr ⟨?_, h⟩, ?_⟩ <;> decide

theorem isTidy_toString (n : Nat) : Text.IsTidy Text.isBlank (toString n) := by
  refine ⟨Text.isTrimmed_of_forall ?_, Time.isLine_toString n⟩
  intro c hc
  rw [Nat.toString_eq_repr, Nat.toList_repr] at hc
  exact Text.isBlank_of_isDigit ((Text.isNumeral_toDigits n).isDigit c hc)

theorem isTidy_mailDate (time : Time) : Text.IsTidy Text.isBlank time.mailDate :=
  ⟨time.isTrimmed_mailDate, time.isLine_mailDate⟩

theorem isWritable_of_mem_fieldUnlessEmpty {name value shown : String} (hname : name ∈ fieldNames)
    (hshown : Text.IsTidy Text.isBlank shown) :
    ∀ field ∈ fieldUnlessEmpty name value shown, field.IsWritable := by
  unfold fieldUnlessEmpty
  split
  · exact List.forall_mem_nil _
  · exact List.forall_mem_singleton.mpr (isWritable_of_mem_fieldNames hname hshown)

theorem isWritable_of_mem_fields {post : Post} (h : post.IsMail) :
    ∀ field ∈ fields post, field.IsWritable := by
  rw [fields, List.forall_mem_append, List.forall_mem_cons, List.forall_mem_cons,
    List.forall_mem_append, List.forall_mem_cons]
  refine ⟨?_, ?_, ?_, ?_, ?_, ?_⟩
  · exact isWritable_of_mem_fieldUnlessEmpty (by decide) (isTidy_collapse h.title)
  · exact isWritable_of_mem_fieldNames (by decide) (isTidy_mailDate post.time)
  · exact isWritable_of_mem_fieldNames (by decide) (isTidy_collapse h.author)
  · exact isWritable_of_mem_fieldUnlessEmpty (by decide) (isTidy_brackets h.guid.isLine)
  · exact isWritable_of_mem_fieldNames (by decide) (isTidy_toString _)
  · exact isWritable_of_mem_fieldUnlessEmpty (by decide) h.tag

/-! ### What the fields say -/

theorem lowerAscii_eq {text small : String} (h : text.toList.map Char.toLower = small.toList) :
    Text.lowerAscii text = small := by
  rw [Text.lowerAscii, String.map_eq_internal, h, String.ofList_toList]

theorem apply_subject (post : Post) (value : String) :
    apply post ⟨"Subject", value⟩ = { post with title := value } := by
  have hname : Text.lowerAscii "Subject" = "subject" := lowerAscii_eq (by decide)
  simp [apply, hname]

theorem apply_from (post : Post) (value : String) :
    apply post ⟨"From", value⟩ = { post with author := value } := by
  have hname : Text.lowerAscii "From" = "from" := lowerAscii_eq (by decide)
  simp [apply, hname]

theorem apply_messageId (post : Post) (value : String) :
    apply post ⟨"Message-ID", value⟩ = { post with guid := dropBrackets value } := by
  have hname : Text.lowerAscii "Message-ID" = "message-id" := lowerAscii_eq (by decide)
  simp [apply, hname]

theorem apply_tags (post : Post) (value : String) :
    apply post ⟨"Tags", value⟩ = { post with tag := value } := by
  have hname : Text.lowerAscii "Tags" = "tags" := lowerAscii_eq (by decide)
  simp [apply, hname]

theorem apply_date (post : Post) {time : Time} (h : time.IsWhole)
    (hyear : time.hasMailDate = true) :
    apply post ⟨"Date", time.mailDate⟩ = { post with time } := by
  have hname : Text.lowerAscii "Date" = "date" := lowerAscii_eq (by decide)
  simp [apply, hname, Time.Mail.read?_mailDate h hyear]

theorem apply_score (post : Post) (score : UInt32) :
    apply post ⟨"Score", toString score.toNat⟩ = { post with score } := by
  have hname : Text.lowerAscii "Score" = "score" := lowerAscii_eq (by decide)
  have hread : Text.word32? (toString score.toNat) = some score := Text.word32?_toString score
  unfold apply
  simp only [hname, hread]
  rfl

theorem dropBrackets_brackets {guid : String} (h : Text.IsTidy isBracket guid) :
    dropBrackets ("<" ++ guid ++ ">") = guid := by
  have htext : ("<" ++ guid ++ ">").toList = '<' :: (guid.toList ++ ['>']) := by
    rw [String.toList_append, String.toList_append]
    rfl
  have htrim : Text.trimChars isBracket ('<' :: (guid.toList ++ ['>'])) = guid.toList :=
    h.isTrimmed.trimChars_enclosed rfl rfl
  rw [dropBrackets, htext]
  show String.ofList (Text.trimChars isBracket _) = guid
  rw [htrim, String.ofList_toList]

/-- A field that is left out says of an empty post what it would have said. -/
theorem foldl_fieldUnlessEmpty (post : Post) (name value shown : String) :
    (fieldUnlessEmpty name value shown).foldl apply post
      = if value = "" then post else apply post ⟨name, shown⟩ := by
  unfold fieldUnlessEmpty
  split <;> rfl

/-- The fields say of the post what it is, apart from its content. -/
theorem foldl_fields {post : Post} (h : post.IsMail) (hyear : post.time.hasMailDate = true) :
    (fields post).foldl apply {} = { post with content := "" } := by
  have htitle : (fieldUnlessEmpty "Subject" post.title post.title).foldl apply {}
      = { title := post.title } := by
    rw [foldl_fieldUnlessEmpty, apply_subject]
    split
    · next hempty => rw [hempty]
    · rfl
  have hguid (before : Post) (hbefore : before.guid = "") :
      (fieldUnlessEmpty "Message-ID" post.guid ("<" ++ post.guid ++ ">")).foldl apply before
        = { before with guid := post.guid } := by
    rw [foldl_fieldUnlessEmpty, apply_messageId, dropBrackets_brackets h.guid]
    split
    · next hempty => rw [hempty, ← hbefore]
    · rfl
  have htag (before : Post) (hbefore : before.tag = "") :
      (fieldUnlessEmpty "Tags" post.tag post.tag).foldl apply before
        = { before with tag := post.tag } := by
    rw [foldl_fieldUnlessEmpty, apply_tags]
    split
    · next hempty => rw [hempty, ← hbefore]
    · rfl
  rw [fields, List.foldl_append, htitle, List.foldl_cons, apply_date _ h.time hyear,
    List.foldl_cons, apply_from, List.foldl_append, hguid _ rfl, List.foldl_cons, apply_score,
    htag _ rfl]

end Feed.Mail

/-! ### Mailboxes of posts -/

namespace Draft

open Feed.Mail

/-- The draft after the message of a post. -/
def afterMessage (post : Post) : Draft :=
  afterLines (fields post) ((linesOf post.content.toList).map quote ++ [[]])

/-- Content is what its quoted lines say, however many empty lines follow. -/
theorem content_quote {content : String} (h : IsContent content) :
    Draft.content ((linesOf content.toList).map quote ++ [[], []]) = content := by
  obtain ⟨lines, hlines, hlast, rfl⟩ := h
  -- only the two empty lines behind the content are dropped
  have hquoted : ∀ line ∈ (lines.map quote).getLast?, line.isEmpty = false := by
    intro line hline
    rw [List.getLast?_map, Option.mem_def, Option.map_eq_some_iff] at hline
    obtain ⟨last, hget, rfl⟩ := hline
    have hne : last ≠ [] := fun hnil => hlast (by rw [hget, hnil])
    simpa using quote_ne_nil hne
  have hunquote : (lines.map quote).map unquote = lines := by
    have hline : ∀ line ∈ lines, (unquote ∘ quote) line = id line := fun line _ =>
      unquote_quote line
    rw [List.map_map, List.map_congr_left hline, List.map_id]
  rw [String.toList_ofList, linesOf_joinChars hlines hlast, Draft.content,
    Text.dropEndWhile_append (by simp), Text.dropEndWhile_eq_self hquoted, hunquote]

/-- A message with a header gives a post. -/
theorem endMessage_of_headers {draft : Draft} (hfield : draft.field = none)
    (hne : draft.headers ≠ []) :
    draft.endMessage.2 = [toPost draft.headers (draft.line :: draft.lines).reverse] := by
  have hend : draft.endField = draft := by rw [endField, hfield]
  have hempty : draft.headers.isEmpty = false := by simpa using hne
  rw [endMessage, hend, hempty]
  rfl

/-- The message of a post gives the post. -/
theorem endMessage_afterMessage {post : Post} (h : post.IsMail)
    (hyear : post.time.hasMailDate = true) : (afterMessage post).endMessage.2 = [post] := by
  have hheaders : (afterMessage post).headers = fields post := rfl
  have hlines : ((afterMessage post).line :: (afterMessage post).lines).reverse
      = (linesOf post.content.toList).map quote ++ [[], []] := by
    simp [afterMessage, afterLines]
  have hpost : toPost (fields post) ((linesOf post.content.toList).map quote ++ [[], []])
      = post := by
    rw [toPost, foldl_fields h hyear, content_quote h.content, Post.normalize]
    dsimp only
    rw [h.title, h.author]
  rw [endMessage_of_headers rfl (by simp [afterMessage, afterLines, fields])]
  rw [hheaders, hlines, hpost]

theorem isLine_breakText (post : Post) : Text.IsLine (breakText post).toList := by
  have hsender : Text.IsLine (sender post).toList :=
    Text.isLine_joinWords ⟨by decide, by decide⟩ _
  simp only [breakText, Text.isLine_toList_append]
  exact ⟨⟨⟨by decide, hsender⟩, by decide⟩, post.time.isLine_delivery⟩

theorem isBreak_breakText (post : Post) : Mail.isBreak (Utf8.encode (breakText post)) = true := by
  rw [Mail.isBreak_encode, List.isPrefixOf_iff_prefix, breakText, String.toList_append,
    String.toList_append, String.toList_append, List.append_assoc, List.append_assoc]
  exact List.prefix_append _ _

/-- The empty line after the fields is taken. -/
theorem gather_blank {fields : List MailField} (hne : fields ≠ [])
    (hfields : ∀ field ∈ fields, field.IsTidy) (rest : Bytes) :
    (afterFields fields).gather (Mail.eventsFrom .headers (Octet.lineFeed :: rest))
      = (afterLines fields []).gather (Mail.eventsFrom .body rest) := by
  have hline := gather_line (afterFields fields) .headers Bytes.isLine_nil rest
  rwa [takeLine_blank hne hfields] at hline

/-- An empty line of the body is taken. -/
theorem gather_emptyLine (fields : List MailField) (lines : List (List Char)) (rest : Bytes) :
    (afterLines fields lines).gather (Mail.eventsFrom .body (Octet.lineFeed :: rest))
      = (afterLines fields (lines ++ [[]])).gather (Mail.eventsFrom .body rest) := by
  have htake : (afterLines fields lines).takeLine .body []
      = (afterLines fields (lines ++ [[]]), []) :=
    @takeLine_body fields lines [] rfl
  have hline := gather_line (afterLines fields lines) .body Bytes.isLine_nil rest
  rwa [htake] at hline

/-- A message is read from its beginning, whatever was read before. -/
theorem gather_message (draft : Draft) (mode : Mail.Mode) {post : Post} (h : post.IsMail)
    (rest : Bytes) :
    draft.gather (Mail.eventsFrom mode (Feed.Piece.output (message post) ++ rest))
      = draft.endMessage.2 ++ (afterMessage post).gather (Mail.eventsFrom .body rest) := by
  have hwritable := isWritable_of_mem_fields h
  have htidy : ∀ field ∈ fields post, field.IsTidy := fun field hfield =>
    (hwritable field hfield).isTidy
  have hne : fields post ≠ [] := by simp [fields]
  have hlines : ∀ line ∈ linesOf post.content.toList, Text.IsLine line := by
    obtain ⟨lines, hlines, hlast, hcontent⟩ := h.content
    rwa [hcontent, String.toList_ofList, linesOf_joinChars hlines hlast]
  -- the break line closes what was read before, and then line follows line
  rw [output_message]
  simp only [List.append_assoc, List.cons_append, List.nil_append]
  rw [gather_line _ _ (Utf8.isLine_encode (isLine_breakText post)),
    takeLine_break _ _ (isBreak_breakText post), Mail.lineMode_break _ (isBreak_breakText post)]
  show _ ++ (afterFields []).gather _ = _
  rw [gather_headerLines (List.forall_mem_nil _) hwritable, List.nil_append,
    gather_blank hne htidy, body, gather_lines _ _ hlines, List.nil_append, gather_emptyLine]
  rfl

/-- Messages are read one after the other, and give the posts they were written for. -/
theorem gather_output (draft : Draft) (mode : Mail.Mode) (written : Nat) {posts : List Post}
    (h : ∀ post ∈ posts, post.IsMail ∧ post.time.hasMailDate = true) :
    draft.gather (Mail.eventsFrom mode (Feed.Form.mail.outputAfter written posts))
      = draft.endMessage.2 ++ posts := by
  induction posts generalizing draft mode written with
  | nil => exact (List.append_nil _).symm
  | cons post rest ih =>
    rw [List.forall_mem_cons] at h
    unfold Feed.Form.outputAfter
    show draft.gather (Mail.eventsFrom mode (Feed.Piece.output (message post) ++ _)) = _
    rw [gather_message _ _ h.1.1, ih _ _ _ h.2, endMessage_afterMessage h.1.1 h.1.2]
    rfl

end Draft

end MarkupFeed
