import MarkupFeed.Post.Policy

/-!
# Pipelines of stages

Posts on their way through a row of stages to the channel at the end.

Some stages pass a post on at once, others hold all posts back until the pipeline is flushed, which
ends a pass. Only a channel can fail; when it does, the posts that were still to come are lost.
-/

namespace MarkupFeed.Feed

/-- What is left after something was tried, and the error if it failed. -/
structure Attempt (ε σ : Type) where
  state : σ
  error : Option ε := none

/-- Where the posts of a pipeline end up. -/
structure Channel (ε σ : Type) where
  /-- Takes a post. -/
  post : σ → Post → Attempt ε σ
  /-- Ends a pass. -/
  flush : σ → σ

/-! ### Counts -/

/-- How often each key occurred, by ascending keys. -/
abbrev Counts := List (String × Nat)

namespace Counts

/-- Counts a key once more. -/
def add (key : String) : Counts → Counts
  | [] => [(key, 1)]
  | (other, count) :: rest =>
    if key < other then (key, 1) :: (other, count) :: rest
    else if key = other then (other, count + 1) :: rest
    else (other, count) :: add key rest

/-- How often a key occurred. -/
def count (counts : Counts) (key : String) : Nat := ((counts.lookup key).getD 0)

/-- How often all keys occurred. -/
def total : Counts → Nat
  | [] => 0
  | (_, count) :: rest => count + total rest

end Counts

/-! ### Stages -/

/-- A stage, with what it remembers. -/
inductive Stage where
  /-- Passes every post on. -/
  | passing
  /-- Passes on the posts that can be published, and counts the others. -/
  | valid (dropped : Nat)
  /-- Holds posts back and passes on those that a window shows which is opened on all of them. -/
  | retained (provide : List Post → Window) (pending : List Post)
  /-- Holds posts back and counts their keys. -/
  | counting (order : PostOrder) (counts : Counts) (pending : List Post)

namespace Stage

/-- A stage that drops what cannot be published, before any post. -/
def validOnly : Stage := valid 0

/-- A stage with a policy, before any post. -/
def retaining (policy : Policy) : Stage := retained policy.provide []

/-- A stage that counts keys, before any post. -/
def counter (order : PostOrder) : Stage := counting order [] []

/-- Takes a post, and says whether it goes on at once. -/
def take (stage : Stage) (post : Post) : Stage × Bool :=
  match stage with
  | passing => (passing, true)
  | valid dropped => if post.isValid then (valid dropped, true) else (valid (dropped + 1), false)
  | retained provide pending => (retained provide (pending ++ [post]), false)
  | counting order counts pending =>
    (counting order (counts.add (order.key post)) (pending ++ [post]), false)

/-- Ends a pass: the posts that go on now. -/
def release (stage : Stage) : Stage × List Post :=
  match stage with
  | passing => (passing, [])
  | valid dropped => (valid dropped, [])
  | retained provide pending => (retained provide [], (provide pending).shown)
  | counting order counts pending => (counting order counts [], pending)

end Stage

/-- Stages from the outermost on, and the state of the channel behind them. -/
structure Pipeline (σ : Type) where
  stages : List Stage
  state : σ

namespace Pipeline

variable {ε σ : Type}

/-- The pipeline with one more stage in front. -/
def behind (stage : Stage) (attempt : Attempt ε (Pipeline σ)) : Attempt ε (Pipeline σ) :=
  { attempt with state := { attempt.state with stages := stage :: attempt.state.stages } }

/-- Sends a post through stages. -/
def postThrough (channel : Channel ε σ) : List Stage → σ → Post → Attempt ε (Pipeline σ)
  | [], state, post =>
    let attempt := channel.post state post
    ⟨⟨[], attempt.state⟩, attempt.error⟩
  | stage :: rest, state, post =>
    match stage.take post with
    | (stage, true) => behind stage (postThrough channel rest state post)
    | (stage, false) => ⟨⟨stage :: rest, state⟩, none⟩

/-- Sends a post into the pipeline. -/
def post (channel : Channel ε σ) (pipeline : Pipeline σ) (post : Post) : Attempt ε (Pipeline σ) :=
  postThrough channel pipeline.stages pipeline.state post

/-- Sends posts into the pipeline, up to the first that fails. -/
def postAll (channel : Channel ε σ) : Pipeline σ → List Post → Attempt ε (Pipeline σ)
  | pipeline, [] => ⟨pipeline, none⟩
  | pipeline, post :: rest =>
    let attempt := pipeline.post channel post
    if attempt.error.isSome then attempt else postAll channel attempt.state rest

theorem length_postThrough (channel : Channel ε σ) (stages : List Stage) (state : σ) (post : Post) :
    (postThrough channel stages state post).state.stages.length = stages.length := by
  fun_induction postThrough channel stages state post with
  | case1 => rfl
  | case2 state post stage rest next _ ih => simpa [behind] using ih
  | case3 => simp

theorem length_postAll (channel : Channel ε σ) (pipeline : Pipeline σ) (posts : List Post) :
    (postAll channel pipeline posts).state.stages.length = pipeline.stages.length := by
  fun_induction postAll channel pipeline posts with
  | case1 => rfl
  | case2 pipeline post rest attempt h => exact length_postThrough channel _ _ post
  | case3 pipeline post rest attempt h ih =>
    exact ih.trans (length_postThrough channel _ _ post)

/-- Ends a pass through stages: each of them releases its posts into those after it. -/
def flushThrough (channel : Channel ε σ) : List Stage → σ → Attempt ε (Pipeline σ)
  | [], state => ⟨⟨[], channel.flush state⟩, none⟩
  | stage :: rest, state =>
    match stage.release with
    | (stage, posts) =>
      let attempt := postAll channel ⟨rest, state⟩ posts
      if attempt.error.isSome then behind stage attempt
      else behind stage (flushThrough channel attempt.state.stages attempt.state.state)
termination_by stages => stages.length
decreasing_by
  have h := length_postAll channel ⟨rest, state⟩ posts
  simp_all

/-- Ends a pass. -/
def flush (channel : Channel ε σ) (pipeline : Pipeline σ) : Attempt ε (Pipeline σ) :=
  flushThrough channel pipeline.stages pipeline.state

end Pipeline

/-! ### Collecting -/

/-- The posts that came through a pipeline, and the number of passes. -/
structure Collected where
  posts : List Post := []
  passes : Nat := 0

/-- The channel that keeps all posts. -/
def Collected.channel : Channel Empty Collected where
  post collected post := ⟨{ collected with posts := collected.posts ++ [post] }, none⟩
  flush collected := { collected with passes := collected.passes + 1 }

end MarkupFeed.Feed
