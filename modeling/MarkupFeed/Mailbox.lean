import MarkupFeed.Feed.Mail
import MarkupFeed.Feed.Pipeline
import MarkupFeed.Format.Mail
import MarkupFeed.Time.Mail
import MarkupFeed.Tokenizer

/-!
# Reading posts out of mailboxes

Reads posts out of the messages of a mailbox.

A tokenizer splits the input; a `Draft` gathers header fields and body lines from its events, and
becomes a post when the line between two messages, or the end of the input, closes the message.
-/

namespace MarkupFeed

/-- A header field of a message. -/
structure MailField where
  name : String
  value : String
  deriving DecidableEq, Repr

namespace MailField

/-- The value with a further part of the field's body, after a space if there is one already. -/
def append (field : MailField) (part : String) : MailField :=
  { field with value := if field.value = "" then part else field.value ++ " " ++ part }

/-- A guid without the angle brackets around it. -/
def dropBrackets (guid : String) : String :=
  String.ofList (Text.trimChars (fun c => c == '<' || c == '>') guid.toList)

/-- The post with what the field says about it. A date or a score that cannot be read says
nothing. -/
def apply (post : Post) (field : MailField) : Post :=
  let name := Text.lowerAscii field.name
  if name = "subject" then { post with title := field.value }
  else if name = "from" then { post with author := field.value }
  else if name = "message-id" then { post with guid := dropBrackets field.value }
  else if name = "date" then { post with time := (Time.Mail.read? field.value).getD post.time }
  else if name = "score" then { post with score := (Text.word32? field.value).getD post.score }
  else if name = "tags" ∨ name = "keywords" then { post with tag := field.value }
  else post

end MailField

/-- A message on its way to becoming a post. -/
structure Draft where
  /-- The octets of the token in progress. -/
  piece : Bytes := []
  /-- The field in progress. -/
  field : Option MailField := none
  /-- The fields before it. -/
  headers : List MailField := []
  /-- Whether the body has begun. -/
  inBody : Bool := false
  /-- The lines of the body that are complete, latest first. -/
  lines : List (List Char) := []
  /-- The line of the body in progress. -/
  line : List Char := []
  /-- Whether the line of the input in progress holds a token. -/
  hasToken : Bool := false
  deriving DecidableEq, Repr

namespace Draft

/-- Puts the field in progress among the others. -/
def endField (draft : Draft) : Draft :=
  match draft.field with
  | none => draft
  | some field =>
    { draft with
      field := none
      headers := draft.headers ++ [{ field with value := Text.trim field.value }] }

/-- The content of a body, given by its lines: without the empty ones at the end. -/
def content (lines : List (List Char)) : String :=
  String.ofList (Text.joinChars ['\n']
    ((Text.dropEndWhile List.isEmpty lines).map Feed.Mail.unquote))

/-- The post of a message. -/
def toPost (headers : List MailField) (lines : List (List Char)) : Post :=
  { headers.foldl MailField.apply {} with content := content lines }.normalize

/-- Closes the message, and gives its post. Nothing is no message. -/
def endMessage (draft : Draft) : Draft × List Post :=
  let closed := draft.endField
  let next : Draft := { piece := draft.piece, hasToken := draft.hasToken }
  if closed.headers.isEmpty && closed.lines.isEmpty && closed.line.isEmpty then (next, [])
  else (next, [toPost closed.headers (closed.line :: closed.lines).reverse])

/-- Takes a whole token. -/
def take (draft : Draft) (kind : Mail.Kind) (text : String) : Draft × List Post :=
  match kind with
  | .fieldName => ({ draft.endField with field := some ⟨Text.trim text, ""⟩ }, [])
  | .fieldBody => ({ draft with field := draft.field.map (·.append (Text.trim text)) }, [])
  | .messageBody => ({ draft with inBody := true, line := draft.line ++ text.toList }, [])
  | .messageBreak => draft.endMessage
  | .colon | .error => (draft, [])

/-- Takes a line end. In the headers, an empty line after a field begins the body. -/
def newline (draft : Draft) : Draft :=
  let next := { draft with hasToken := false }
  if draft.inBody then { next with lines := draft.line :: draft.lines, line := [] }
  else if !draft.hasToken && (draft.field.isSome || !draft.headers.isEmpty) then
    { next.endField with inBody := true }
  else next

/-- Takes an event. -/
def observe (draft : Draft) : Event Mail.Kind → Draft × List Post
  | .token kind text fragment =>
    let whole := draft.piece ++ text
    let next := { draft with hasToken := true }
    if fragment then ({ next with piece := whole }, [])
    else { next with piece := [] }.take kind (Utf8.decodeLossy whole)
  | .newline _ => (draft.newline, [])

/-- Takes consecutive events. -/
def observeAll : Draft → List (Event Mail.Kind) → Draft × List Post
  | draft, [] => (draft, [])
  | draft, event :: rest =>
    match draft.observe event with
    | (draft, posts) =>
      match draft.observeAll rest with
      | (draft, more) => (draft, posts ++ more)

end Draft

/-- A reader of mailboxes. -/
structure Mailbox where
  tokenizer : Tokenizer Mail.machine := .fresh Mail.machine
  draft : Draft := {}

namespace Mailbox

/-- Reads the next part of the input, and gives the posts it completes. -/
def feed (mailbox : Mailbox) (input : Bytes) : Mailbox × List Post :=
  match mailbox.tokenizer.feed input with
  | (tokenizer, reports) =>
    match mailbox.draft.observeAll (Report.events reports) with
    | (draft, posts) => (⟨tokenizer, draft⟩, posts)

/-- Declares the end of the input, and gives the post of the last message. -/
def finish (mailbox : Mailbox) : Mailbox × List Post :=
  match mailbox.tokenizer.flush with
  | (tokenizer, reports) =>
    match mailbox.draft.observeAll (Report.events reports) with
    | (draft, posts) =>
      match draft.endMessage with
      | (draft, last) => (⟨tokenizer, draft⟩, posts ++ last)

/-- Reads consecutive parts of an input and finishes. -/
def readAll (mailbox : Mailbox) : List Bytes → Mailbox × List Post
  | [] => mailbox.finish
  | part :: parts =>
    match mailbox.feed part with
    | (mailbox, posts) =>
      match mailbox.readAll parts with
      | (mailbox, more) => (mailbox, posts ++ more)

/-- The posts of a mailbox. -/
def posts (input : Bytes) : List Post := (readAll {} [input]).2

end Mailbox

end MarkupFeed
