import MarkupFeed.Proofs.Feed.Counts
import MarkupFeed.Proofs.Feed.Passes
import MarkupFeed.Proofs.Feed.Republishing

/-!
# The index of a mailbox and its feeds

The index of a mailbox says what a feed of one key shows.

An index counts the keys of the posts that can be published, as they come out of the mailbox
(`counts_eq`). A feed of one key puts the same posts in order and drops those with another key, of
which none is left out if the page has room for all messages (`length_shown_eq`). Main statement:
`written_eq_count`.
-/

namespace MarkupFeed.Command

open Feed

variable {ε σ : Type}

/-! ### Counting -/

/-- A stage that counts holds posts back as well. -/
theorem postAll_counting (channel : Channel ε σ) (state : σ) (order : PostOrder) (counts : Counts)
    (pending posts : List Post) :
    Pipeline.postAll channel ⟨[.counting order counts pending], state⟩ posts
      = ⟨⟨[.counting order (counts.addAll (posts.map order.key)) (pending ++ posts)], state⟩,
          none⟩ := by
  induction posts generalizing counts pending with
  | nil => rw [List.append_nil]; rfl
  | cons post rest ih =>
    have hrest := ih (counts.add (order.key post)) (pending ++ [post])
    rw [List.append_assoc] at hrest
    exact hrest

/-- In front of a channel that cannot fail, a stage releases its posts into those behind it. -/
theorem flushThrough_cons (channel : Channel Empty σ) (stage : Stage) (rest : List Stage)
    (state : σ) :
    Pipeline.flushThrough channel (stage :: rest) state
      = Pipeline.behind stage.release.1
          (Pipeline.flushThrough channel
            (Pipeline.postAll channel ⟨rest, state⟩ stage.release.2).state.stages
            (Pipeline.postAll channel ⟨rest, state⟩ stage.release.2).state.state) := by
  rw [Pipeline.flushThrough]
  dsimp only
  rw [Pipeline.error_eq_none]
  rfl

/-- At the end of the pass, what a policy held back is counted and goes on. -/
theorem flush_counting (channel : Channel Empty σ) (state : σ) (order : PostOrder) (dropped : Nat)
    (posts : List Post) :
    let flushed := Pipeline.flush channel
      ⟨[.valid dropped, .retained (Policy.provide .everything) posts, .counter order], state⟩
    flushed.error = none
      ∧ flushed.state.stages
        = [.valid dropped, .retained (Policy.provide .everything) [],
            .counting order (Counts.addAll [] (posts.map order.key)) []] := by
  intro flushed
  refine ⟨Pipeline.error_eq_none _, ?_⟩
  have hshown : (Policy.everything.provide posts).shown = posts := Window.shown_whole posts
  have hend (posts : List Post) :
      (Pipeline.postAll channel ⟨[], state⟩ posts).state.stages = [] :=
    List.length_eq_zero_iff.mp (Pipeline.length_postAll channel ⟨[], state⟩ posts)
  have hflushed : flushed = Pipeline.flushThrough channel
      [.valid dropped, .retained (Policy.provide .everything) posts, .counter order] state := rfl
  rw [hflushed, flushThrough_cons]
  simp only [Stage.release, Pipeline.postAll, Pipeline.behind]
  rw [flushThrough_cons]
  simp only [Stage.release, Stage.counter, hshown, postAll_counting, Pipeline.behind]
  rw [flushThrough_cons, Stage.release, hend, Pipeline.flushThrough]
  rfl

/-- An index counts the keys of the posts that can be published, as they come. -/
theorem counts_eq (order : PostOrder) (input : Bytes) :
    counts order input
      = Counts.addAll [] (((Mailbox.posts input).filter Post.isValid).map order.key) := by
  obtain ⟨hread, hpipeline⟩ :=
    read_retaining Collected.channel {} .everything [.counter order] input
  obtain ⟨hflush, hstages⟩ := flush_counting Collected.channel {} order
    ((Mailbox.posts input).countP (!·.isValid)) ((Mailbox.posts input).filter Post.isValid)
  unfold counts publish
  dsimp only
  rw [hread, hpipeline]
  dsimp only
  rw [hflush]
  dsimp only [Option.elim]
  rw [hstages]
  rfl

theorem count_counts (order : PostOrder) (input : Bytes) (key : String) :
    (counts order input).count key
      = ((Mailbox.posts input).filter Post.isValid).countP fun post => order.key post == key := by
  rw [counts_eq, Counts.count_addAll_nil, List.count, List.countP_map]
  rfl

theorem total_counts (order : PostOrder) (input : Bytes) :
    (counts order input).total = (Mailbox.posts input).countP Post.isValid := by
  rw [counts_eq, Counts.total_addAll, List.length_map, List.countP_eq_length_filter]
  exact Nat.zero_add _

/-- All messages are counted, whatever becomes of them behind a channel that cannot fail. -/
theorem messages_read (channel : Channel Empty σ) (pipeline : Pipeline σ) (input : Bytes) :
    (Intake.read channel { pipeline } input).state.messages = (Mailbox.posts input).length := by
  have hnever : channel.NeverFails := fun state post => by
    cases (channel.post state post).error with
    | none => rfl
    | some error => exact error.elim
  rw [Intake.read, Intake.readAll_eq hnever]
  simp only [posts_readAll_chunks, Nat.zero_add]

/-! ### Showing one key -/

variable {settings : Settings} {request : FeedRequest}

/-- With room for all messages, a feed of one key shows every post with the key that can be
published. -/
theorem length_shown_eq {key : String} (hpage : request.page = 0)
    (hcompact : settings.compact = false) (hselect : request.select = [key]) {input : Bytes}
    (hlength : (Mailbox.posts input).length ≤ Window.position settings.pageLength) :
    (shown (policy settings request) input).length
      = ((Mailbox.posts input).filter Post.isValid).countP
          fun post => settings.order.key post == key := by
  have hwanted : isWanted settings request = fun post => settings.order.key post == key := by
    funext post
    rw [isWanted, hselect, List.isEmpty_cons, Bool.false_or, List.contains_cons,
      List.contains_nil, Bool.or_false]
  have hperm := (settings.order.isStableSort_sort
    ((Mailbox.posts input).filter Post.isValid)).perm
  rw [shown, shown_policy hpage hcompact, hwanted, List.length_take,
    ← List.countP_eq_length_filter, hperm.countP_eq, Nat.min_eq_right]
  exact Nat.le_trans List.countP_le_length (Nat.le_trans (List.length_filter_le _ _) hlength)

/-- What a writer of a form has written once it has taken the posts of such a feed. -/
theorem publish_select {key : String} (hpage : request.page = 0)
    (hcompact : settings.compact = false) (hselect : request.select = [key]) {input : Bytes}
    (hlength : (Mailbox.posts input).length ≤ Window.position settings.pageLength)
    (hdates : ∀ post ∈ Mailbox.posts input, post.time.hasMailDate = true) (form : Form) :
    ∃ pipeline,
      publish (Writer.channel Sink.unlimited form) [.retaining (policy settings request)]
          { memory := () } input = .ok pipeline
        ∧ pipeline.state.written = (counts settings.order input).count key := by
  have hrefusal : (shown (policy settings request) input).findSome? form.refusal = none := by
    rw [List.findSome?_eq_none_iff]
    intro post hpost
    have hdate := hdates post (mem_of_mem_shown hpage hcompact input post hpost).1
    cases hfailure : form.refusal post with
    | none => rfl
    | some failure => exact absurd hdate (by simp [(Form.refusal_eq_some_iff.mp hfailure).2.1])
  have hpublished := publish_retaining (Writer.channel Sink.unlimited form)
    (policy settings request) { memory := () } input
  dsimp only at hpublished
  rw [postAll_eq_afterPosts _ hrefusal] at hpublished
  cases hpipeline : publish (Writer.channel Sink.unlimited form)
      [.retaining (policy settings request)] { memory := () } input with
  | error failure =>
    rw [hpipeline] at hpublished
    exact absurd hpublished (by simp [Except.map])
  | ok pipeline =>
    rw [hpipeline] at hpublished
    have hstate : pipeline.state = _ := Except.ok.inj hpublished
    refine ⟨pipeline, rfl, ?_⟩
    rw [hstate, count_counts, ← length_shown_eq hpage hcompact hselect hlength]
    exact (Writer.written_afterPosts _ _ _).trans (Nat.zero_add _)

/-- The index of a mailbox whose dates can all be written counts, for each key, the posts that a
feed of this key alone hands to its writer, whichever it is, as long as it merges none, shows the
first page, and the page has room for all messages. Over all keys, it counts the posts that can be
published, which are the messages that were read but those that were dropped. -/
theorem written_eq_count {input : Bytes}
    (hdates : ∀ post ∈ Mailbox.posts input, post.time.hasMailDate = true) (settings : Settings) :
    let index := Intake.read Collected.channel
      { pipeline := ⟨[.validOnly, .retaining .everything, .counter settings.order], {}⟩ } input
    (∀ (key : String) (request : FeedRequest) (form : Form),
        settings.compact = false → request.page = 0 → request.select = [key] →
        index.state.messages ≤ Window.position settings.pageLength →
        ∃ pipeline,
          publish (Writer.channel Sink.unlimited form) [.retaining (policy settings request)]
              { memory := () } input = .ok pipeline
            ∧ pipeline.state.written = (counts settings.order input).count key)
      ∧ (counts settings.order input).total
          = ((Mailbox.posts input).filter Post.isValid).length
      ∧ ∃ dropped, index.state.pipeline.stages.head? = some (.valid dropped)
          ∧ (counts settings.order input).total = index.state.messages - dropped
          ∧ dropped ≤ index.state.messages := by
  intro index
  obtain ⟨-, hpipeline⟩ :=
    read_retaining Collected.channel {} .everything [.counter settings.order] input
  have hmessages : index.state.messages = (Mailbox.posts input).length := messages_read _ _ _
  rw [hmessages, total_counts]
  refine ⟨?_, List.countP_eq_length_filter, _, congrArg (List.head? ·.stages) hpipeline, ?_⟩
  · intro key request form hcompact hpage hselect hlength
    exact publish_select hpage hcompact hselect hlength hdates form
  · have hparts : (Mailbox.posts input).length
        = (Mailbox.posts input).countP Post.isValid
          + (Mailbox.posts input).countP (!·.isValid) := by
      simpa using List.length_eq_countP_add_countP Post.isValid
    omega

/-- Two messages of one thread, one whose key is empty, and one that cannot be published. -/
theorem written_eq_count_thread :
    let input := Bytes.ascii ("From x\nSubject: T\nFrom: a\n\none\n"
      ++ "From x\nSubject: RE: t\nFrom: b\n\ntwo\n"
      ++ "From x\nSubject: t\n\nlost\nFrom x\nSubject: Re:\nFrom: c\n\nthree\n")
    let settings : Settings := { order := .subject }
    let request : FeedRequest := { select := ["t"] }
    (∀ post ∈ Mailbox.posts input, post.time.hasMailDate = true)
      ∧ counts .subject input = [("", 1), ("t", 2)]
      ∧ ∃ pipeline,
          publish (Writer.channel Sink.unlimited .mail) [.retaining (policy settings request)]
              { memory := () } input = .ok pipeline
            ∧ pipeline.state.written = 2 := by
  intro input settings request
  have hinput : Mailbox.posts input
      = [{ title := "T", author := "a", content := "one" },
        { title := "RE: t", author := "b", content := "two" },
        { title := "t", content := "lost" },
        { title := "Re:", author := "c", content := "three" }] := by
    rw [show input = _ from Bytes.ascii_append _ _, Bytes.ascii_append, Bytes.ascii_ofList,
      Bytes.ascii_ofList, Bytes.ascii_ofList]
    decide +kernel
  have hdates : ∀ post ∈ Mailbox.posts input, post.time.hasMailDate = true := by
    rw [hinput]
    decide
  have hcounts : counts .subject input = [("", 1), ("t", 2)] := by
    rw [counts_eq, hinput]
    decide +kernel
  obtain ⟨hwritten, -⟩ := written_eq_count hdates settings
  obtain ⟨pipeline, hpipeline, hcount⟩ := hwritten "t" request .mail rfl rfl rfl (by
    rw [messages_read, hinput]
    decide)
  refine ⟨hdates, hcounts, pipeline, hpipeline, ?_⟩
  rw [hcount, show settings.order = .subject from rfl, hcounts]
  rfl

end MarkupFeed.Command
