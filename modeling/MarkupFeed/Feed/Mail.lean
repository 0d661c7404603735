import MarkupFeed.Feed.Piece
import MarkupFeed.Post
import MarkupFeed.Text.Utf8

/-!
# Posts as the messages of a mailbox

A line of content that reads like the line between two messages, once any `>` in front of it is
removed, gets one more `>`; reading the mailbox takes it off again.
-/

namespace MarkupFeed.Feed.Mail

/-- Whether the line reads like the line between two messages, any `>` in front aside. -/
def isQuotable (line : List Char) : Bool :=
  "From ".toList.isPrefixOf (line.dropWhile (· == '>'))

/-- The line as it stands in a mailbox. -/
def quote (line : List Char) : List Char := if isQuotable line then '>' :: line else line

/-- The line as it was before it was put into a mailbox. -/
def unquote (line : List Char) : List Char :=
  match line with
  | '>' :: rest => if isQuotable rest then rest else line
  | _ => line

/-- Removes one CR at the end. -/
def dropCarriageReturn (line : List Char) : List Char :=
  if line.getLast? = some '\r' then line.dropLast else line

/-- The lines of a text, without the LF or CR LF at their ends. The text after the last LF is a line
if it is not empty. -/
def linesOf (text : List Char) : List (List Char) :=
  let parts := Text.splitChars (· == '\n') text
  let closed := parts.dropLast.map dropCarriageReturn
  match parts.getLast? with
  | some (c :: rest) => closed ++ [c :: rest]
  | _ => closed

/-- The sender in the line in front of a message: the author in one word. -/
def sender (post : Post) : String :=
  Text.joinWords '_' (if post.author = "" then "MAILER-DAEMON" else post.author)

/-- A line of a header. -/
def header (name value : String) : Bytes := Utf8.encode (name ++ ": " ++ value ++ "\n")

/-- A line of a header whose value is not left empty. -/
def headerUnlessEmpty (name value : String) (shown : String → String) : Bytes :=
  if value = "" then [] else header name (shown value)

/-- The message of a post up to its date. -/
def messageHead (post : Post) : Bytes :=
  Utf8.encode ("From " ++ sender post ++ " " ++ post.time.delivery ++ "\n")
    ++ headerUnlessEmpty "Subject" post.title id

/-- The headers of a post from its date on. -/
def laterHeaders (post : Post) : Bytes :=
  header "Date" post.time.mailDate ++ header "From" post.author
    ++ headerUnlessEmpty "Message-ID" post.guid (fun guid => "<" ++ guid ++ ">")
    ++ header "Score" (toString post.score.toNat)
    ++ headerUnlessEmpty "Tags" post.tag id

/-- The content of a post, line by line. -/
def body (post : Post) : Bytes :=
  (linesOf post.content.toList).flatMap fun line =>
    Utf8.encode (String.ofList (quote line ++ ['\n']))

/-- The message of a post from its date on. -/
def messageTail (post : Post) : Bytes :=
  laterHeaders post ++ [Octet.lineFeed] ++ body post ++ [Octet.lineFeed]

/-- The pieces of the message of a post. -/
def message (post : Post) : List Piece :=
  [.text (messageHead post), .needsMailDate post.time, .text (messageTail post)]

end MarkupFeed.Feed.Mail
