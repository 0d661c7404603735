import MarkupFeed.Feed.Html
import MarkupFeed.Feed.Mail
import MarkupFeed.Feed.Pipeline
import MarkupFeed.Feed.Rss

/-!
# Writing posts in a published form

The end of a pipeline that writes its posts to a sink, in one of the published forms.
-/

namespace MarkupFeed.Feed

/-- A form feeds are written in. -/
inductive Form where
  | html (layout : Html.Layout)
  /-- A mailbox. -/
  | mail
  | rss
  /-- One JSON object on each line. -/
  | json
  deriving DecidableEq, Repr

/-- The pieces of a post that so many were written before. -/
def Form.pieces (form : Form) (written : Nat) (post : Post) : List Piece :=
  match form with
  | html layout => [.text (layout.shown written post)]
  | mail => Mail.message post
  | rss => Rss.item post
  | json => [.value (Utf8.encode post.json.compact), .text [Octet.lineFeed]]

/-- What is written for posts, the first one after so many others. -/
def Form.outputAfter (form : Form) (written : Nat) : List Post → Bytes
  | [] => []
  | post :: rest => Piece.output (form.pieces written post) ++ form.outputAfter (written + 1) rest

/-- What is written for posts. -/
def Form.output (form : Form) (posts : List Post) : Bytes := form.outputAfter 0 posts

/-- A writer on its way, with `τ` the memory of its sink. -/
structure Writer (τ : Type) where
  memory : τ
  /-- The number of posts written as a whole. -/
  written : Nat := 0
  /-- What reached the sink, latest part first. -/
  parts : List Bytes := []

namespace Writer

variable {ε τ : Type}

/-- What reached the sink. -/
def output (writer : Writer τ) : Bytes := writer.parts.reverse.flatten

/-- Writes pieces. -/
def write (sink : Sink ε τ) (writer : Writer τ) (pieces : List Piece) :
    Attempt (Failure ε) (Writer τ) :=
  let outcome := Piece.writeAll sink pieces writer.memory
  ⟨{ writer with memory := outcome.sink, parts := outcome.output :: writer.parts }, outcome.error⟩

/-- Writes a post. -/
def post (sink : Sink ε τ) (form : Form) (writer : Writer τ) (post : Post) :
    Attempt (Failure ε) (Writer τ) :=
  let attempt := writer.write sink (form.pieces writer.written post)
  if attempt.error.isSome then attempt
  else { attempt with state := { attempt.state with written := writer.written + 1 } }

/-- The end of a pipeline that writes in a form. -/
def channel (sink : Sink ε τ) (form : Form) : Channel (Failure ε) (Writer τ) where
  post := Writer.post sink form
  flush writer := writer

end Writer

end MarkupFeed.Feed
