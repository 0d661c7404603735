import MarkupFeed.Feed.Piece
import MarkupFeed.Markup.Entity
import MarkupFeed.Post

/-!
# Posts as the items of an RSS 2.0 channel
-/

namespace MarkupFeed.Feed.Rss

/-- An element with a text for content, on a line of its own. -/
def element (name text : String) : Bytes :=
  Bytes.ascii ("<" ++ name ++ ">") ++ Entity.escapeText text ++ Bytes.ascii ("</" ++ name ++ ">\n")

/-- The categories of a post: its tags, without white space around them. -/
def categories (post : Post) : List String :=
  if post.tag = "" then [] else post.tags.map Text.trim

/-- The item of a post up to its date. -/
def itemHead (post : Post) : Bytes :=
  Bytes.ascii "<item>\n" ++ element "title" post.title ++ Bytes.ascii "<guid isPermaLink=\"false\">"
    ++ Entity.escapeText post.guid ++ Bytes.ascii "</guid>\n" ++ element "author" post.author

/-- The item of a post from its date on. -/
def itemTail (post : Post) : Bytes :=
  element "pubDate" post.time.mailDate ++ (categories post).flatMap (element "category")
    ++ element "description" post.content ++ Bytes.ascii "</item>\n"

/-- The pieces of the item of a post. -/
def item (post : Post) : List Piece :=
  [.text (itemHead post), .needsMailDate post.time, .text (itemTail post)]

/-- What opens a channel. -/
def channelHead (title link description : String) : Bytes :=
  Bytes.ascii "<?xml version=\"1.0\" encoding=\"UTF-8\"?>\n<rss version=\"2.0\">\n<channel>\n"
    ++ element "title" title ++ element "link" link ++ element "description" description

/-- What closes a channel. -/
def channelTail : Bytes := Bytes.ascii "</channel>\n</rss>\n"

end MarkupFeed.Feed.Rss
