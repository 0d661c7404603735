import MarkupFeed.Feed.Piece
import MarkupFeed.Markup.Entity
import MarkupFeed.Post

/-!
# Posts as HTML

Posts as HTML: divs with title, byline and content, or the rows of a table. The class alternates
from post to post.
-/

namespace MarkupFeed.Feed.Html

/-- How posts are laid out. -/
inductive Layout where
  /-- A block for each post, with title, byline and content. -/
  | divs
  /-- A table row for each post, with date, author and title. -/
  | rows
  deriving DecidableEq, Repr

/-- The class of a post that so many were written before. -/
def parity (written : Nat) : String := if written % 2 = 0 then "postEven" else "postOdd"

/-- A post as a block. -/
def div (written : Nat) (post : Post) : Bytes :=
  Bytes.ascii ("<div class=\"" ++ parity written ++ "\">\n<h2>") ++ Entity.escapeText post.title
    ++ Bytes.ascii "</h2>\n<p class=\"byline\">"
    ++ Entity.escapeText (post.time.brief ++ " - " ++ post.author)
    ++ Bytes.ascii "</p>\n<p>" ++ Entity.escapeText post.content ++ Bytes.ascii "</p>\n</div>\n"

/-- A post as a table row. -/
def row (written : Nat) (post : Post) : Bytes :=
  Bytes.ascii ("<tr class=\"" ++ parity written ++ "\"><td>" ++ post.time.brief ++ "</td><td>")
    ++ Entity.escapeText post.author ++ Bytes.ascii "</td><td>" ++ Entity.escapeText post.title
    ++ Bytes.ascii "</td></tr>\n"

/-- A post in a layout. -/
def Layout.shown (layout : Layout) (written : Nat) (post : Post) : Bytes :=
  match layout with
  | divs => div written post
  | rows => row written post

end MarkupFeed.Feed.Html
