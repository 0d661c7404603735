import MarkupFeed.Feed.Pipeline

/-!
# Pipelines as functions on a pass

A pipeline is a function on the posts of a pass.

Stages pass posts on at once or hold them back, and a flush runs through all of them, each stage
releasing its posts into those that have not been flushed yet. `Holds` is the invariant in the
middle of a pass: what every stage holds back, given the posts that were fed since the last flush.
One post keeps it (`took_postThrough`), and a flush comes to the composition of the stages
(`flushed_flushThrough`) and leaves nothing behind. The main statement, over any sequence of calls,
is `received_eq`.
-/

namespace MarkupFeed.Feed

/-! ### Stages as list functions -/

namespace Stage

/-- The posts a stage holds back. -/
def pending : Stage → List Post
  | passing | valid _ => []
  | retained _ pending | counting _ _ pending => pending

/-- What a stage makes of all posts of a pass. -/
def shows : Stage → List Post → List Post
  | passing, posts => posts
  | valid _, posts => posts.filter Post.isValid
  | retained provide _, posts => (provide posts).shown
  | counting _ _ _, posts => posts

/-- What a stage passes on of these posts before the pass ends. -/
def passes : Stage → List Post → List Post
  | passing, posts => posts
  | valid _, posts => posts.filter Post.isValid
  | retained _ _, _ | counting _ _ _, _ => []

/-- What a stage holds back of these posts until the pass ends. -/
def holds : Stage → List Post → List Post
  | passing, _ | valid _, _ => []
  | retained _ _, posts | counting _ _ _, posts => posts

theorem passes_append (stage : Stage) (posts more : List Post) :
    stage.passes (posts ++ more) = stage.passes posts ++ stage.passes more := by
  cases stage <;> simp [passes]

theorem passes_nil (stage : Stage) : stage.passes [] = [] := by
  cases stage <;> rfl

theorem holds_nil (stage : Stage) : stage.holds [] = [] := by
  cases stage <;> rfl

/-- A post is passed on or held back, as the stage does with all posts, and the stage stays what it
is. -/
theorem take_spec (stage : Stage) (post : Post) {fed : List Post}
    (h : stage.pending = stage.holds fed) :
    (stage.take post).1.pending = (stage.take post).1.holds (fed ++ [post])
      ∧ (stage.take post).1.shows = stage.shows
      ∧ (stage.take post).1.passes = stage.passes
      ∧ stage.passes [post] = if (stage.take post).2 then [post] else [] := by
  cases stage with
  | passing => exact ⟨rfl, rfl, rfl, rfl⟩
  | valid dropped =>
    by_cases hvalid : post.isValid = true
    · rw [take, if_pos hvalid]
      exact ⟨rfl, rfl, rfl, by simp [passes, hvalid]⟩
    · rw [take, if_neg hvalid]
      exact ⟨rfl, rfl, rfl, by simp [passes, hvalid]⟩
  | retained provide held =>
    obtain rfl : held = fed := h
    exact ⟨rfl, rfl, rfl, rfl⟩
  | counting order counts held =>
    obtain rfl : held = fed := h
    exact ⟨rfl, rfl, rfl, rfl⟩

/-- At the end of a pass a stage releases what it has not passed on before, and holds nothing. -/
theorem release_spec (stage : Stage) {fed : List Post} (h : stage.pending = stage.holds fed) :
    stage.release.1.pending = []
      ∧ stage.release.1.shows = stage.shows
      ∧ stage.passes fed ++ stage.release.2 = stage.shows fed := by
  cases stage with
  | passing => exact ⟨rfl, rfl, List.append_nil _⟩
  | valid dropped => exact ⟨rfl, rfl, List.append_nil _⟩
  | retained provide held =>
    obtain rfl : held = fed := h
    exact ⟨rfl, rfl, rfl⟩
  | counting order counts held =>
    obtain rfl : held = fed := h
    exact ⟨rfl, rfl, rfl⟩

end Stage

/-- What stages, the outermost first, make of all posts of a pass. -/
def showsAll (stages : List Stage) (posts : List Post) : List Post :=
  stages.foldl (fun posts stage => stage.shows posts) posts

/-- What stages let through of these posts before the pass ends. -/
def passesAll (stages : List Stage) (posts : List Post) : List Post :=
  stages.foldl (fun posts stage => stage.passes posts) posts

theorem passesAll_append (stages : List Stage) (posts more : List Post) :
    passesAll stages (posts ++ more) = passesAll stages posts ++ passesAll stages more := by
  induction stages generalizing posts more with
  | nil => rfl
  | cons stage rest ih =>
    show passesAll rest (stage.passes (posts ++ more)) = _
    rw [stage.passes_append, ih]
    rfl

theorem passesAll_nil (stages : List Stage) : passesAll stages [] = [] := by
  induction stages with
  | nil => rfl
  | cons stage rest ih =>
    show passesAll rest (stage.passes []) = []
    rw [stage.passes_nil, ih]

/-- Every stage holds back what it has to of the posts that were fed since the last flush. -/
def Holds : List Stage → List Post → Prop
  | [], _ => True
  | stage :: rest, fed => stage.pending = stage.holds fed ∧ Holds rest (stage.passes fed)

/-- Between two passes nothing is held back. -/
theorem holds_nil_iff {stages : List Stage} :
    Holds stages [] ↔ ∀ stage ∈ stages, stage.pending = [] := by
  induction stages with
  | nil => simp [Holds]
  | cons stage rest ih => rw [Holds, stage.holds_nil, stage.passes_nil, ih, List.forall_mem_cons]

/-! ### Posts and flushes -/

namespace Pipeline

/-- What posts do to a pipeline in the middle of a pass: its stages stay what they are and hold back
what they have to, and the rest has come through. -/
structure Took (before after : Pipeline Collected) (fed posts : List Post) : Prop where
  holds : Holds after.stages (fed ++ posts)
  shows : showsAll after.stages = showsAll before.stages
  passes : passesAll after.stages = passesAll before.stages
  state : after.state
    = { before.state with posts := before.state.posts ++ passesAll before.stages posts }

/-- A channel that cannot fail does not. -/
theorem error_eq_none {σ : Type} (attempt : Attempt Empty σ) : attempt.error = none := by
  cases attempt.error with
  | none => rfl
  | some error => exact error.elim

theorem took_nil {pipeline : Pipeline Collected} {fed : List Post}
    (h : Holds pipeline.stages fed) : Took pipeline pipeline fed [] := by
  refine ⟨?_, rfl, rfl, ?_⟩
  · rw [List.append_nil]
    exact h
  · rw [passesAll_nil, List.append_nil]

theorem Took.trans {first second third : Pipeline Collected} {fed posts more : List Post}
    (h : Took first second fed posts) (h' : Took second third (fed ++ posts) more) :
    Took first third fed (posts ++ more) := by
  refine ⟨?_, h'.shows.trans h.shows, h'.passes.trans h.passes, ?_⟩
  · rw [← List.append_assoc]
    exact h'.holds
  · rw [h'.state, h.state, h.passes, passesAll_append, List.append_assoc]

/-- One post: the stages up to the first that does not pass it on take it. -/
theorem took_postThrough (stages : List Stage) (collected : Collected) (post : Post)
    {fed : List Post} (h : Holds stages fed) :
    Took ⟨stages, collected⟩ (postThrough Collected.channel stages collected post).state
      fed [post] := by
  induction stages generalizing fed with
  | nil => exact ⟨trivial, rfl, rfl, rfl⟩
  | cons stage rest ih =>
    obtain ⟨hstage, hrest⟩ := h
    obtain ⟨hpending, hshows, hpasses, hgoes⟩ := stage.take_spec post hstage
    unfold postThrough
    generalize htake : stage.take post = taken at hpending hshows hpasses hgoes
    obtain ⟨next, goes⟩ := taken
    dsimp only at hpending hshows hpasses hgoes
    have hfed : next.passes (fed ++ [post])
        = stage.passes fed ++ if goes = true then [post] else [] := by
      rw [hpasses, stage.passes_append, hgoes]
    cases goes with
    | true =>
      have took := ih hrest
      refine ⟨⟨hpending, ?_⟩, ?_, ?_, ?_⟩
      · -- the stages behind this one have taken the post as well
        rw [hfed]
        exact took.holds
      · funext posts
        show showsAll _ (next.shows posts) = showsAll rest (stage.shows posts)
        rw [took.shows, hshows]
      · funext posts
        show passesAll _ (next.passes posts) = passesAll rest (stage.passes posts)
        rw [took.passes, hpasses]
      · show _ = { collected with posts := collected.posts ++ passesAll rest (stage.passes [post]) }
        rw [hgoes]
        exact took.state
    | false =>
      -- the stages behind this one are not called
      have hsame : next.passes (fed ++ [post]) = stage.passes fed := hfed.trans (List.append_nil _)
      refine ⟨⟨hpending, ?_⟩, ?_, ?_, ?_⟩
      · rw [hsame]
        exact hrest
      · funext posts
        show showsAll rest (next.shows posts) = showsAll rest (stage.shows posts)
        rw [hshows]
      · funext posts
        show passesAll rest (next.passes posts) = passesAll rest (stage.passes posts)
        rw [hpasses]
      · show _ = { collected with posts := collected.posts ++ passesAll rest (stage.passes [post]) }
        rw [hgoes]
        simp [passesAll_nil]

theorem took_post (pipeline : Pipeline Collected) (post : Post) {fed : List Post}
    (h : Holds pipeline.stages fed) :
    Took pipeline (pipeline.post Collected.channel post).state fed [post] :=
  took_postThrough pipeline.stages pipeline.state post h

theorem took_postAll (pipeline : Pipeline Collected) (posts : List Post) {fed : List Post}
    (h : Holds pipeline.stages fed) :
    Took pipeline (postAll Collected.channel pipeline posts).state fed posts := by
  induction posts generalizing pipeline fed with
  | nil => exact took_nil h
  | cons post rest ih =>
    have took := took_post pipeline post h
    rw [postAll, error_eq_none]
    exact took.trans (ih _ took.holds)

/-- What a flush does to a pipeline: its stages stay what they are and hold back nothing, and the
pass is complete. -/
structure Flushed (before after : Pipeline Collected) (posts : List Post) : Prop where
  pending : ∀ stage ∈ after.stages, stage.pending = []
  shows : showsAll after.stages = showsAll before.stages
  state : after.state = ⟨posts, before.state.passes + 1⟩

/-- A flush brings the posts of the pass to what the stages make of them in a row. -/
theorem flushed_flushThrough (stages : List Stage) (collected : Collected) {base fed : List Post}
    (h : Holds stages fed) (hposts : collected.posts = base ++ passesAll stages fed) :
    Flushed ⟨stages, collected⟩ (flushThrough Collected.channel stages collected).state
      (base ++ showsAll stages fed) := by
  -- along the recursion of the flush, since the stages behind the first have taken its posts
  fun_induction flushThrough Collected.channel stages collected generalizing fed
  case case1 collected =>
    have hcollected : collected.posts = base ++ showsAll [] fed := hposts
    refine ⟨List.forall_mem_nil _, rfl, ?_⟩
    rw [← hcollected]
    rfl
  case case2 stage rest collected next posts hrelease attempt herror =>
    -- a channel that cannot fail does not end a flush early
    rw [error_eq_none] at herror
    exact absurd herror Bool.false_ne_true
  case case3 stage rest collected next posts hrelease attempt herror ih =>
    obtain ⟨hstage, hrest⟩ := h
    obtain ⟨hpending, hshows, hreleased⟩ := stage.release_spec hstage
    rw [hrelease] at hpending hshows hreleased
    dsimp only at hpending hshows hreleased
    have took : Took ⟨rest, collected⟩ attempt.state (stage.passes fed) posts :=
      took_postAll ⟨rest, collected⟩ posts hrest
    -- with the released posts, the stages behind have taken all that this stage makes of the pass
    have hholds := took.holds
    rw [hreleased] at hholds
    have hstate : attempt.state.state.posts
        = base ++ passesAll attempt.state.stages (stage.shows fed) := by
      rw [took.state, took.passes, ← hreleased, passesAll_append, ← List.append_assoc]
      show collected.posts ++ _ = _
      rw [hposts]
      rfl
    have flushed := ih hholds hstate
    refine ⟨?_, ?_, ?_⟩
    · show ∀ stage ∈ next :: _, _
      rw [List.forall_mem_cons]
      exact ⟨hpending, flushed.pending⟩
    · funext posts
      show showsAll _ (next.shows posts) = showsAll rest (stage.shows posts)
      rw [flushed.shows, hshows, took.shows]
    · show _ = (⟨base ++ showsAll rest (stage.shows fed), collected.passes + 1⟩ : Collected)
      rw [← took.shows]
      refine flushed.state.trans ?_
      rw [took.state]

theorem flushed_flush (pipeline : Pipeline Collected) {base fed : List Post}
    (h : Holds pipeline.stages fed)
    (hposts : pipeline.state.posts = base ++ passesAll pipeline.stages fed) :
    Flushed pipeline (pipeline.flush Collected.channel).state
      (base ++ showsAll pipeline.stages fed) :=
  flushed_flushThrough pipeline.stages pipeline.state h hposts

end Pipeline

/-! ### Calls -/

/-- A call on a pipeline. -/
inductive Call where
  | post (post : Post)
  | flush

/-- The posts fed in each pass that calls complete, when some were fed in this pass before. -/
def Call.passes (fed : List Post) : List Call → List (List Post)
  | [] => []
  | post next :: rest => passes (fed ++ [next]) rest
  | flush :: rest => fed :: passes [] rest

namespace Pipeline

/-- Makes a call. -/
def call (pipeline : Pipeline Collected) : Call → Pipeline Collected
  | .post post => (pipeline.post Collected.channel post).state
  | .flush => (pipeline.flush Collected.channel).state

/-- Makes calls. -/
def calls (pipeline : Pipeline Collected) (calls : List Call) : Pipeline Collected :=
  calls.foldl call pipeline

/-- The posts that come through in each pass that calls complete, where the pass began after the
first `start` posts that were collected. -/
def received (start : Nat) : Pipeline Collected → List Call → List (List Post)
  | _, [] => []
  | pipeline, .post post :: rest => received start (pipeline.call (.post post)) rest
  | pipeline, .flush :: rest =>
    let next := pipeline.call .flush
    next.state.posts.drop start :: received next.state.posts.length next rest

/-- The invariant of a run of calls: `base` was collected before this pass, in which `fed` was fed
so far. -/
structure Runs (pipeline : Pipeline Collected) (shows : List Post → List Post)
    (base fed : List Post) : Prop where
  holds : Holds pipeline.stages fed
  shows : showsAll pipeline.stages = shows
  posts : pipeline.state.posts = base ++ passesAll pipeline.stages fed

variable {pipeline : Pipeline Collected} {shows : List Post → List Post} {base fed : List Post}

/-- Between passes the invariant holds for everything collected. -/
theorem runs_of_pending (h : ∀ stage ∈ pipeline.stages, stage.pending = []) :
    pipeline.Runs (showsAll pipeline.stages) pipeline.state.posts [] := by
  refine ⟨holds_nil_iff.mpr h, rfl, ?_⟩
  rw [passesAll_nil, List.append_nil]

theorem Runs.post (h : pipeline.Runs shows base fed) (post : Post) :
    (pipeline.call (.post post)).Runs shows base (fed ++ [post]) := by
  have took : Took pipeline (pipeline.call (.post post)) fed [post] :=
    took_post pipeline post h.holds
  refine ⟨took.holds, took.shows.trans h.shows, ?_⟩
  rw [took.state, took.passes, passesAll_append, ← List.append_assoc, ← h.posts]

/-- A flush completes the pass, and another one begins. -/
theorem Runs.flush (h : pipeline.Runs shows base fed) :
    (pipeline.call .flush).Runs shows (base ++ shows fed) []
      ∧ (pipeline.call .flush).state = ⟨base ++ shows fed, pipeline.state.passes + 1⟩
      ∧ ∀ stage ∈ (pipeline.call .flush).stages, stage.pending = [] := by
  have flushed : Flushed pipeline (pipeline.call .flush) (base ++ showsAll pipeline.stages fed) :=
    flushed_flush pipeline h.holds h.posts
  rw [h.shows] at flushed
  refine ⟨⟨holds_nil_iff.mpr flushed.pending, flushed.shows.trans h.shows, ?_⟩, flushed.state,
    flushed.pending⟩
  rw [flushed.state, passesAll_nil, List.append_nil]

/-- The invariant holds after any calls. -/
theorem Runs.calls (h : pipeline.Runs shows base fed) (calls : List Call) :
    ∃ base fed, (pipeline.calls calls).Runs shows base fed := by
  induction calls generalizing pipeline base fed with
  | nil => exact ⟨base, fed, h⟩
  | cons call rest ih =>
    cases call with
    | post post => exact ih (h.post post)
    | flush => exact ih h.flush.1

/-- Each pass that calls complete brings what the stages make of the posts fed in it. -/
theorem Runs.received (h : pipeline.Runs shows base fed) (calls : List Call) :
    pipeline.received base.length calls = (Call.passes fed calls).map shows := by
  induction calls generalizing pipeline base fed with
  | nil => rfl
  | cons call rest ih =>
    cases call with
    | post post => exact ih (h.post post)
    | flush =>
      obtain ⟨hnext, hstate, -⟩ := h.flush
      rw [Pipeline.received, hstate, List.drop_left]
      exact congrArg _ (ih hnext)

/-- A pipeline is a function on lists in each pass: whatever the calls, the posts that come through
in a pass are those fed in it, taken through the stages one after the other. After each flush no
stage holds back a post, and one more pass is counted. -/
theorem received_eq (pipeline : Pipeline Collected)
    (h : ∀ stage ∈ pipeline.stages, stage.pending = []) (calls : List Call) :
    pipeline.received pipeline.state.posts.length calls
        = (Call.passes [] calls).map (showsAll pipeline.stages)
      ∧ ∀ before : List Call,
        (∀ stage ∈ (pipeline.calls (before ++ [.flush])).stages, stage.pending = [])
          ∧ (pipeline.calls (before ++ [.flush])).state.passes
            = (pipeline.calls before).state.passes + 1 := by
  have start := runs_of_pending h
  refine ⟨start.received calls, ?_⟩
  intro before
  obtain ⟨base, fed, runs⟩ := start.calls before
  obtain ⟨-, hstate, hpending⟩ := runs.flush
  have hcalls : pipeline.calls (before ++ [.flush]) = (pipeline.calls before).call .flush := by
    rw [Pipeline.calls, List.foldl_append]
    rfl
  rw [hcalls]
  exact ⟨hpending, by rw [hstate]⟩

/-- A second page with room for one post, of which only what can be published is left: the first
pass shows the second post, and the other has no second page. -/
theorem received_second_page :
    let known : Post :=
      { guid := "1", title := "one", author := "A", content := "x", tag := "rust" }
    let other : Post := { known with guid := "2", title := "two" }
    let pipeline : Pipeline Collected :=
      ⟨[.validOnly, .counter .tag, .retaining (.paginated .everything 1 1), .passing], {}⟩
    (∀ stage ∈ pipeline.stages, stage.pending = [])
      ∧ pipeline.received 0
          [.post known, .post { known with title := "" }, .post other, .flush, .post known, .flush]
        = [[other], []]
      ∧ (pipeline.calls [.post known, .flush]).state.passes = 1 := by
  intro known other pipeline
  have h : ∀ stage ∈ pipeline.stages, stage.pending = [] := by
    simp [pipeline, Stage.pending, Stage.validOnly, Stage.counter, Stage.retaining]
  refine ⟨h, (received_eq pipeline h _).1.trans (by decide), ?_⟩
  obtain ⟨-, hpasses⟩ := (received_eq pipeline h []).2 [.post known]
  exact hpasses.trans (by decide)

end Pipeline

end MarkupFeed.Feed
