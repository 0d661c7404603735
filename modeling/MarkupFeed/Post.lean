import MarkupFeed.Json
import MarkupFeed.Text.Blank
import MarkupFeed.Time

/-!
# Posts

What is published: a blog entry, a commit, a mail message, reduced to what every feed needs.
-/

namespace MarkupFeed

/-- A post. -/
structure Post where
  /-- What tells the post from all others. -/
  guid : String := ""
  title : String := ""
  content : String := ""
  author : String := ""
  time : Time := {}
  /-- How much the post matters. -/
  score : UInt32 := 0
  /-- The tags of the post, with commas between them. -/
  tag : String := ""
  deriving DecidableEq

namespace Post

/-- The post without the white space in title and author that carries no meaning. -/
def normalize (post : Post) : Post :=
  { post with title := Text.collapse post.title, author := Text.collapse post.author }

/-- Whether the post can be published. Its guid has no white space, though it may be empty. -/
def isValid (post : Post) : Bool :=
  !post.guid.toList.any Text.isBlank && post.title != "" && post.author != "" && post.content != ""

/-- The single tags. -/
def tags (post : Post) : List String :=
  (Text.splitChars (· == ',') post.tag.toList).map String.ofList

/-- The post as a value for exchange. -/
def json (post : Post) : Json :=
  .object
    [("guid", .text post.guid), ("title", .text post.title), ("content", .text post.content),
     ("author", .text post.author), ("time", .text post.time.stamp),
     ("score", .number post.score.toNat), ("tag", .text post.tag)]

end Post

end MarkupFeed
