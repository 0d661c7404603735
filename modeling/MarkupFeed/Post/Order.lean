import MarkupFeed.Post
import MarkupFeed.Post.Thread

/-!
# The orders of posts

The orders posts can be listed in, each with the key it groups them by.
-/

namespace MarkupFeed

/-- An order of posts. -/
inductive PostOrder where
  /-- Newest first, by month. -/
  | time
  /-- By tag, newest first within a tag. -/
  | tag
  /-- Highest score first. -/
  | score
  /-- By thread, oldest first within a thread. -/
  | subject
  deriving DecidableEq, Repr

namespace PostOrder

/-- All orders, in the order they are listed in. -/
def all : List PostOrder := [time, tag, score, subject]

/-- The published name. -/
def name : PostOrder → String
  | time => "time"
  | tag => "tag"
  | score => "score"
  | subject => "subject"

/-- A name that no order has. -/
structure Unknown where
  name : String
  deriving DecidableEq, Repr

def Unknown.message (error : Unknown) : String :=
  "unknown order '" ++ error.name ++ "' (expected one of: "
    ++ ", ".intercalate (all.map PostOrder.name) ++ ")"

/-- The order of a name, whatever the case of its ASCII letters. Two of them have a second name. -/
def ofName (text : String) : Except Unknown PostOrder :=
  let small := Text.lowerAscii text
  if small = "time" ∨ small = "date" then .ok time
  else if small = "tag" then .ok tag
  else if small = "score" then .ok score
  else if small = "subject" ∨ small = "thread" then .ok subject
  else .error ⟨text⟩

/-- Compares two posts; the one that is less comes first. -/
def compare (order : PostOrder) (a b : Post) : Ordering :=
  match order with
  | time => b.time.compare a.time
  | tag => (Ord.compare a.tag b.tag).then (b.time.compare a.time)
  | score => Ord.compare b.score a.score
  | subject => (Ord.compare (Thread.key a.title) (Thread.key b.title)).then (a.time.compare b.time)

/-- The group a post belongs to. -/
def key (order : PostOrder) (post : Post) : String :=
  match order with
  | time => post.time.monthText
  | tag => post.tag
  | score => toString post.score.toNat
  | subject => Thread.key post.title

/-- The posts in order. Posts that compare equal keep theirs. -/
def sort (order : PostOrder) (posts : List Post) : List Post :=
  posts.mergeSort fun a b => order.compare a b != .gt

end PostOrder

end MarkupFeed
