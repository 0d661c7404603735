import MarkupFeed.Post.Order

/-!
# Policies of what is shown

Which of some posts are shown, and in which order.

A policy works on a buffer of posts with a window on it (`Window`): each policy first asks the one
it is made from, and then works inside the window that it gets. `Policy.select` says the same
without buffers, as a function on lists.
-/

namespace MarkupFeed

/-- A buffer of posts, and the part of it that is shown: from `start` up to but not including
`stop`. -/
structure Window where
  posts : List Post
  start : Nat
  stop : Nat
  deriving DecidableEq

namespace Window

/-- The window that shows everything. -/
def whole (posts : List Post) : Window := ⟨posts, 0, posts.length⟩

/-- The posts shown. -/
def shown (window : Window) : List Post :=
  (window.posts.drop window.start).take (window.stop - window.start)

/-- Puts other posts in place of those shown. -/
def rebuild (window : Window) (change : List Post → List Post) : Window :=
  let posts := change window.shown
  { posts := window.posts.take window.start ++ posts ++ window.posts.drop window.stop
    start := window.start
    stop := window.start + posts.length }

/-- The largest position: positions are words of 64 bits. -/
def lastPosition : Nat := UInt64.size - 1

/-- The position that is meant by a number: one too large for a position becomes the last one. -/
def position (n : Nat) : Nat := min n lastPosition

/-- Narrows the window to its page of a number. -/
def page (window : Window) (number length : Nat) : Window :=
  let start := min (position (position (number * length) + window.start)) window.stop
  { window with start, stop := min (position (start + length)) window.stop }

end Window

/-- Which posts are shown. -/
inductive Policy where
  /-- All, as they came. -/
  | everything
  | ordered (inner : Policy) (order : PostOrder)
  /-- One page of so many posts; pages count from zero. -/
  | paginated (inner : Policy) (page length : Nat)
  /-- Posts with one guid in a row made one. -/
  | compacted (inner : Policy)
  /-- Those with one of the keys. -/
  | selected (inner : Policy) (order : PostOrder) (keys : List String)
  deriving DecidableEq

namespace Policy

/-- The first post, with the tag of the second added unless it has it already. -/
def absorb (first second : Post) : Post :=
  if second.tag = "" ∨ second.tag ∈ first.tags then first
  else
    { first with
      tag := if first.tag = "" then second.tag else first.tag ++ "," ++ second.tag }

/-- Compacts posts that follow a post. -/
def compactAfter (last : Post) : List Post → List Post
  | [] => [last]
  | post :: rest =>
    if last.guid = post.guid then compactAfter (absorb last post) rest
    else last :: compactAfter post rest

/-- The posts with those of one guid in a row made one. -/
def compact : List Post → List Post
  | [] => []
  | post :: rest => compactAfter post rest

/-- The window a policy opens on a buffer. -/
def provide : Policy → List Post → Window
  | everything, posts => .whole posts
  | ordered inner order, posts => (inner.provide posts).rebuild order.sort
  | paginated inner page length, posts => (inner.provide posts).page page length
  | compacted inner, posts => (inner.provide posts).rebuild compact
  | selected inner order keys, posts =>
    (inner.provide posts).rebuild (·.filter fun post => keys.contains (order.key post))

/-- The posts a policy shows, as a function on lists. -/
def select : Policy → List Post → List Post
  | everything, posts => posts
  | ordered inner order, posts => order.sort (inner.select posts)
  | paginated inner page length, posts => ((inner.select posts).drop (page * length)).take length
  | compacted inner, posts => compact (inner.select posts)
  | selected inner order keys, posts =>
    (inner.select posts).filter fun post => keys.contains (order.key post)

end Policy

end MarkupFeed
