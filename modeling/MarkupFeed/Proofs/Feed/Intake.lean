import MarkupFeed.Feed.Intake
import MarkupFeed.Proofs.Mailbox.Reading

/-!
# Mailboxes that flow into a pipeline, in parts of any size

An intake sends what its mailbox gives into its pipeline, up to the first post that fails
(`readAll_pipeline`). In front of a channel that never fails it is its mailbox and its pipeline side
by side: it sends everything, in that order, and counts it (`readAll_eq`). What a mailbox gives does
not depend on the parts it comes in, and so neither does what the channel takes:
`readAll_eq_whole`.
-/

namespace MarkupFeed.Feed

/-- A channel that takes every post. -/
def Channel.NeverFails {ε σ : Type} (channel : Channel ε σ) : Prop :=
  ∀ state post, (channel.post state post).error = none

variable {ε σ : Type} {channel : Channel ε σ}

namespace Pipeline

/-- Posts are sent one after the other, up to the first that fails. -/
theorem postAll_append_eq (channel : Channel ε σ) (pipeline : Pipeline σ) (posts more : List Post) :
    postAll channel pipeline (posts ++ more)
      = if (postAll channel pipeline posts).error.isSome then postAll channel pipeline posts
        else postAll channel (postAll channel pipeline posts).state more := by
  induction posts generalizing pipeline with
  | nil => rfl
  | cons post rest ih =>
    rw [List.cons_append, postAll, postAll]
    split
    · rfl
    · exact ih _

theorem error_post (h : channel.NeverFails) (pipeline : Pipeline σ) (post : Post) :
    (pipeline.post channel post).error = none := by
  obtain ⟨stages, state⟩ := pipeline
  unfold Pipeline.post
  dsimp only
  fun_induction postThrough channel stages state post with
  | case1 state post => exact h state post
  | case2 state post stage rest next _ ih => exact ih
  | case3 => rfl

theorem postAll_cons (h : channel.NeverFails) (pipeline : Pipeline σ) (post : Post)
    (rest : List Post) :
    postAll channel pipeline (post :: rest)
      = postAll channel (pipeline.post channel post).state rest := by
  rw [postAll, error_post h]
  rfl

/-- Posts are sent one after the other. -/
theorem postAll_append (h : channel.NeverFails) (pipeline : Pipeline σ) (posts more : List Post) :
    postAll channel pipeline (posts ++ more)
      = postAll channel (postAll channel pipeline posts).state more := by
  induction posts generalizing pipeline with
  | nil => rfl
  | cons post rest ih => rw [List.cons_append, postAll_cons h, postAll_cons h, ih]

end Pipeline

namespace Intake

open Pipeline

/-! ### Any channel -/

/-- Posts go into the pipeline and nowhere else. -/
theorem relay_pipeline (channel : Channel ε σ) (intake : Intake σ) (posts : List Post) :
    (relay channel intake posts).error = (intake.pipeline.postAll channel posts).error
      ∧ (relay channel intake posts).state.pipeline
        = (intake.pipeline.postAll channel posts).state
      ∧ (relay channel intake posts).state.mailbox = intake.mailbox := by
  induction posts generalizing intake with
  | nil => exact ⟨rfl, rfl, rfl⟩
  | cons post rest ih =>
    rw [relay, postAll]
    split
    · exact ⟨rfl, rfl, rfl⟩
    · exact ih _

/-- An intake sends what its mailbox gives, up to the first post that fails. -/
theorem readAll_pipeline (channel : Channel ε σ) (intake : Intake σ) (parts : List Bytes) :
    let sent := intake.pipeline.postAll channel (intake.mailbox.readAll parts).2
    (readAll channel intake parts).error = sent.error
      ∧ (readAll channel intake parts).state.pipeline = sent.state := by
  induction parts generalizing intake with
  | nil =>
    obtain ⟨herror, hpipeline, -⟩ :=
      relay_pipeline channel { intake with mailbox := intake.mailbox.finish.1 }
        intake.mailbox.finish.2
    exact ⟨herror, hpipeline⟩
  | cons part parts ih =>
    obtain ⟨herror, hpipeline, hmailbox⟩ :=
      relay_pipeline channel { intake with mailbox := (intake.mailbox.feed part).1 }
        (intake.mailbox.feed part).2
    have hposts : (intake.mailbox.readAll (part :: parts)).2
        = (intake.mailbox.feed part).2 ++ ((intake.mailbox.feed part).1.readAll parts).2 := rfl
    have hfeed : intake.feed channel part
        = relay channel { intake with mailbox := (intake.mailbox.feed part).1 }
            (intake.mailbox.feed part).2 := rfl
    intro sent
    have hsent : sent = _ :=
      (congrArg (intake.pipeline.postAll channel) hposts).trans (postAll_append_eq _ _ _ _)
    rw [hsent, readAll, hfeed, herror]
    split
    · exact ⟨herror, hpipeline⟩
    · have hrest := ih (relay channel { intake with mailbox := (intake.mailbox.feed part).1 }
        (intake.mailbox.feed part).2).state
      rw [hmailbox, hpipeline] at hrest
      exact hrest

/-! ### A channel that never fails -/

/-- All posts are sent and counted. -/
theorem relay_eq (h : channel.NeverFails) (intake : Intake σ) (posts : List Post) :
    relay channel intake posts
      = ⟨⟨intake.mailbox, intake.messages + posts.length,
          (intake.pipeline.postAll channel posts).state⟩, none⟩ := by
  induction posts generalizing intake with
  | nil => rfl
  | cons post rest ih =>
    rw [relay, error_post h, postAll_cons h, List.length_cons, Nat.add_comm rest.length,
      ← Nat.add_assoc]
    exact ih _

theorem feed_eq (h : channel.NeverFails) (intake : Intake σ) (part : Bytes) :
    intake.feed channel part
      = ⟨⟨(intake.mailbox.feed part).1, intake.messages + (intake.mailbox.feed part).2.length,
          (intake.pipeline.postAll channel (intake.mailbox.feed part).2).state⟩, none⟩ :=
  relay_eq h _ _

/-- An intake sends what its mailbox gives, and counts it. -/
theorem readAll_eq (h : channel.NeverFails) (intake : Intake σ) (parts : List Bytes) :
    readAll channel intake parts
      = ⟨⟨(intake.mailbox.readAll parts).1,
          intake.messages + (intake.mailbox.readAll parts).2.length,
          (intake.pipeline.postAll channel (intake.mailbox.readAll parts).2).state⟩, none⟩ := by
  induction parts generalizing intake with
  | nil => exact relay_eq h _ _
  | cons part parts ih =>
    -- the posts a part completes are sent before the next part is read
    have hposts : (intake.mailbox.readAll (part :: parts)).2
        = (intake.mailbox.feed part).2 ++ ((intake.mailbox.feed part).1.readAll parts).2 := rfl
    rw [readAll, feed_eq h, hposts, postAll_append h, List.length_append, ← Nat.add_assoc]
    exact ih _

/-- Into any pipeline with a channel that never fails, a fresh reader of mailboxes sends the same
posts in the same order whatever parts its input comes in, empty ones included, and it counts the
same number of them: those of the whole input, sent one after the other. -/
theorem readAll_eq_whole (h : channel.NeverFails) (pipeline : Pipeline σ) (parts : List Bytes) :
    let input := parts.flatten
    let cut := readAll channel { pipeline } parts
    let whole := readAll channel { pipeline } [input]
    (({} : Mailbox).readAll parts).2 = Mailbox.posts input
      ∧ (cut.error = none ∧ cut.state.pipeline = whole.state.pipeline
        ∧ cut.state.messages = whole.state.messages)
      ∧ whole.error = none
      ∧ whole.state.pipeline = (pipeline.postAll channel (Mailbox.posts input)).state
      ∧ whole.state.messages = (Mailbox.posts input).length := by
  intro input cut whole
  have hparts : (({} : Mailbox).readAll parts).2 = Mailbox.posts input := by
    rw [Mailbox.posts, Mailbox.posts_readAll, Mailbox.posts_readAll, List.flatten_singleton]
  have hcut : cut.error = none
      ∧ cut.state.pipeline = (pipeline.postAll channel (Mailbox.posts input)).state
      ∧ cut.state.messages = (Mailbox.posts input).length := by
    rw [← hparts]
    simp only [cut, readAll_eq h, Nat.zero_add, and_self]
  have hwhole : whole.error = none
      ∧ whole.state.pipeline = (pipeline.postAll channel (Mailbox.posts input)).state
      ∧ whole.state.messages = (Mailbox.posts input).length := by
    simp only [whole, readAll_eq h, Nat.zero_add, Mailbox.posts, and_self]
  refine ⟨hparts, ⟨hcut.1, ?_, ?_⟩, hwhole⟩
  · rw [hcut.2.1, hwhole.2.1]
  · rw [hcut.2.2, hwhole.2.2]

/-- Two messages, cut inside the line between them, inside a CR LF and at an empty part. -/
theorem readAll_two_messages :
    let parts := ["From a\r", "\nSubject: t\r\n\r", "", "\nx\nFr", "om b\nSubject: u\n"].map
      Bytes.ascii
    let pipeline : Pipeline Collected := ⟨[.validOnly, .retaining .everything], {}⟩
    let cut := readAll Collected.channel { pipeline } parts
    let whole := readAll Collected.channel { pipeline } [parts.flatten]
    Collected.channel.NeverFails
      ∧ (({} : Mailbox).readAll parts).2 = Mailbox.posts parts.flatten
      ∧ (cut.error = none ∧ cut.state.pipeline = whole.state.pipeline
        ∧ cut.state.messages = whole.state.messages)
      ∧ whole.state.messages = 2 := by
  have h : Collected.channel.NeverFails := fun _ _ => rfl
  obtain ⟨hposts, hcut, -, -, hmessages⟩ := readAll_eq_whole h
    (⟨[.validOnly, .retaining .everything], {}⟩ : Pipeline Collected)
    (["From a\r", "\nSubject: t\r\n\r", "", "\nx\nFr", "om b\nSubject: u\n"].map Bytes.ascii)
  refine ⟨h, hposts, hcut, hmessages.trans ?_⟩
  decide +kernel

end Intake

end MarkupFeed.Feed
