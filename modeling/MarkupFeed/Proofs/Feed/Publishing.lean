import MarkupFeed.Command
import MarkupFeed.Proofs.Feed.Intake
import MarkupFeed.Proofs.Feed.Writer
import MarkupFeed.Proofs.Post.Policy

/-!
# What publishing a mailbox comes to

In front of the writer stands a stage that holds every post back until the mailbox is read, so that
nothing can fail before (`postAll_retained`); the writer then takes the posts the policy shows
(`written_eq`). Hence a feed fails for an unreadable file, for an output it does not know, or for a
shown post without the mail date its form needs: `feed_noMailDate_iff`.
-/

namespace MarkupFeed.Command

open Feed

/-! ### The posts that are shown -/

/-- The posts of a mailbox that a policy shows, of those that can be published. -/
def shown (policy : Policy) (input : Bytes) : List Post :=
  (policy.provide ((Mailbox.posts input).filter Post.isValid)).shown

variable {ε σ : Type}

/-- A policy holds back all posts that can be published, the others are counted, and what stands
behind the policy takes none. -/
theorem postAll_retained (channel : Channel ε σ) (state : σ) (provide : List Post → Window)
    (behind : List Stage) (dropped : Nat) (pending posts : List Post) :
    Pipeline.postAll channel ⟨.valid dropped :: .retained provide pending :: behind, state⟩ posts
      = ⟨⟨.valid (dropped + posts.countP (!·.isValid))
            :: .retained provide (pending ++ posts.filter Post.isValid) :: behind, state⟩,
          none⟩ := by
  induction posts generalizing dropped pending with
  | nil => rw [List.filter_nil, List.append_nil]; rfl
  | cons post rest ih =>
    cases hvalid : post.isValid with
    | true =>
      have hpost : Pipeline.post channel
            ⟨.valid dropped :: .retained provide pending :: behind, state⟩ post
          = ⟨⟨.valid dropped :: .retained provide (pending ++ [post]) :: behind, state⟩, none⟩ := by
        simp [Pipeline.post, Pipeline.postThrough, Stage.take, Pipeline.behind, hvalid]
      have hrest := ih dropped (pending ++ [post])
      rw [List.append_assoc] at hrest
      rw [Pipeline.postAll, hpost, List.filter_cons_of_pos hvalid,
        List.countP_cons_of_neg (by simp [hvalid])]
      exact hrest
    | false =>
      have hpost : Pipeline.post channel
            ⟨.valid dropped :: .retained provide pending :: behind, state⟩ post
          = ⟨⟨.valid (dropped + 1) :: .retained provide pending :: behind, state⟩, none⟩ := by
        simp [Pipeline.post, Pipeline.postThrough, Stage.take, hvalid]
      rw [Pipeline.postAll, hpost, List.filter_cons_of_neg (by simp [hvalid]),
        List.countP_cons_of_pos (by simp [hvalid]), Nat.add_comm (List.countP _ _),
        ← Nat.add_assoc]
      exact ih (dropped + 1) pending

/-- The posts of a mailbox do not depend on the buffers it is read in. -/
theorem posts_readAll_chunks (input : Bytes) :
    (({} : Mailbox).readAll (Bytes.chunks Intake.bufferSize input)).2 = Mailbox.posts input := by
  rw [Mailbox.posts, Mailbox.posts_readAll, Mailbox.posts_readAll, Bytes.flatten_chunks,
    List.flatten_singleton]

/-- So it is with the posts of a mailbox, once it is read. -/
theorem read_retaining (channel : Channel ε σ) (state : σ) (policy : Policy) (behind : List Stage)
    (input : Bytes) :
    let read := Intake.read channel
      { pipeline := ⟨.validOnly :: .retaining policy :: behind, state⟩ } input
    read.error = none
      ∧ read.state.pipeline
        = ⟨.valid ((Mailbox.posts input).countP (!·.isValid))
            :: .retained policy.provide ((Mailbox.posts input).filter Post.isValid)
            :: behind, state⟩ := by
  have hread := Intake.readAll_pipeline channel
    { pipeline := ⟨.validOnly :: .retaining policy :: behind, state⟩ }
    (Bytes.chunks Intake.bufferSize input)
  have hheld := postAll_retained channel state policy.provide behind 0 [] (Mailbox.posts input)
  rw [Nat.zero_add, List.nil_append] at hheld
  have hsent : Pipeline.postAll channel ⟨.validOnly :: .retaining policy :: behind, state⟩
      (({} : Mailbox).readAll (Bytes.chunks Intake.bufferSize input)).2 = _ :=
    (congrArg _ (posts_readAll_chunks input)).trans hheld
  rw [hsent] at hread
  exact hread

/-- At the end of the pass, the channel takes the posts that the policy shows. -/
theorem flush_retaining (channel : Channel ε σ) (state : σ) (policy : Policy) (dropped : Nat)
    (posts : List Post) :
    let sent := Pipeline.postAll channel ⟨[], state⟩ (policy.provide posts).shown
    let flushed := Pipeline.flush channel ⟨[.valid dropped, .retained policy.provide posts], state⟩
    flushed.error = sent.error
      ∧ (sent.error = none → flushed.state.state = channel.flush sent.state.state) := by
  intro sent flushed
  have hstages : sent.state.stages = [] :=
    List.length_eq_zero_iff.mp (Pipeline.length_postAll channel ⟨[], state⟩ _)
  have hinner : Pipeline.flushThrough channel [.retained policy.provide posts] state
      = if sent.error.isSome then Pipeline.behind (.retained policy.provide []) sent
        else Pipeline.behind (.retained policy.provide [])
          ⟨⟨[], channel.flush sent.state.state⟩, none⟩ := by
    rw [Pipeline.flushThrough, Stage.release]
    show (if sent.error.isSome then _ else _) = _
    rw [hstages, Pipeline.flushThrough]
  have hflushed : flushed
      = Pipeline.behind (.valid dropped)
          (Pipeline.flushThrough channel [.retained policy.provide posts] state) := by
    show Pipeline.flushThrough _ _ _ = _
    rw [Pipeline.flushThrough]
    rfl
  rw [hflushed, hinner]
  cases herror : sent.error with
  | none => exact ⟨rfl, fun _ => rfl⟩
  | some error =>
    exact ⟨herror, fun hnone => absurd hnone (by simp)⟩

/-- Publishing a mailbox is sending the posts that the policy shows into the channel. -/
theorem publish_retaining (channel : Channel ε σ) (policy : Policy) (state : σ) (input : Bytes) :
    let sent := Pipeline.postAll channel ⟨[], state⟩ (shown policy input)
    (publish channel [.retaining policy] state input).map Pipeline.state
      = sent.error.elim (.ok (channel.flush sent.state.state)) .error := by
  intro sent
  obtain ⟨hread, hpipeline⟩ := read_retaining channel state policy [] input
  obtain ⟨herror, hstate⟩ := flush_retaining channel state policy
    ((Mailbox.posts input).countP (!·.isValid)) ((Mailbox.posts input).filter Post.isValid)
  unfold publish
  dsimp only
  rw [hread, hpipeline]
  dsimp only
  rw [herror]
  show (Option.elim sent.error _ _ : Except ε (Pipeline σ)).map Pipeline.state = _
  cases hsent : sent.error with
  | none => exact congrArg Except.ok (hstate hsent)
  | some error => rfl

/-- A mailbox in a form is what is written for the posts that the policy shows, unless one of them
is refused. -/
theorem written_eq (form : Form) (policy : Policy) (input : Bytes) :
    written form policy input
      = ((shown policy input).findSome? form.refusal).elim (.ok (form.output (shown policy input)))
          fun failure => .error (.badFeed failure) := by
  have hpublished := publish_retaining (Writer.channel Sink.unlimited form) policy
    { memory := () } input
  dsimp only at hpublished
  rw [error_postAll_unlimited] at hpublished
  have hwritten : written form policy input
      = (((publish (Writer.channel Sink.unlimited form) [.retaining policy] { memory := () }
          input).map Pipeline.state).map Writer.output).mapError .badFeed := by
    rw [written]
    cases publish (Writer.channel Sink.unlimited form) [.retaining policy]
      { memory := () } input with
    | ok pipeline => rfl
    | error failure => rfl
  rw [hwritten, hpublished]
  cases hrefusal : (shown policy input).findSome? form.refusal with
  | none => exact congrArg Except.ok (postAll_unlimited { memory := () } hrefusal)
  | some failure => rfl

/-- Writing a mailbox fails for a shown post without the mail date that the form needs, and for
nothing else. -/
theorem written_eq_error_iff {form : Form} {policy : Policy} {input : Bytes}
    {error : CommandError} :
    written form policy input = .error error
      ↔ ∃ failure, (shown policy input).findSome? form.refusal = some failure
          ∧ error = .badFeed failure := by
  rw [written_eq]
  cases (shown policy input).findSome? form.refusal <;> simp [eq_comm]

theorem exists_time_of_written_eq_error {form : Form} {policy : Policy} {input : Bytes}
    {error : CommandError} (h : written form policy input = .error error) :
    ∃ time, error = .badFeed (.noMailDate time) := by
  obtain ⟨failure, hfound, rfl⟩ := written_eq_error_iff.mp h
  obtain ⟨post, -, hrefusal⟩ := List.exists_of_findSome?_eq_some hfound
  exact ⟨post.time, congrArg _ (Form.refusal_eq_some_iff.mp hrefusal).2.2⟩

theorem written_noMailDate_iff (form : Form) (policy : Policy) (input : Bytes) :
    (∃ time, written form policy input = .error (.badFeed (.noMailDate time)))
      ↔ (form = .mail ∨ form = .rss)
        ∧ ∃ post ∈ shown policy input, post.time.hasMailDate = false := by
  constructor
  · rintro ⟨time, h⟩
    obtain ⟨failure, hfound, -⟩ := written_eq_error_iff.mp h
    obtain ⟨post, hpost, hrefusal⟩ := List.exists_of_findSome?_eq_some hfound
    obtain ⟨hform, hdate, -⟩ := Form.refusal_eq_some_iff.mp hrefusal
    exact ⟨hform, post, hpost, hdate⟩
  · rintro ⟨hform, post, hpost, hdate⟩
    have hrefusal := Form.refusal_eq_some_iff.mpr ⟨hform, hdate, rfl⟩
    -- the first post that is refused need not be this one
    cases hfound : (shown policy input).findSome? form.refusal with
    | none => exact absurd (List.findSome?_eq_none_iff.mp hfound post hpost) (by simp [hrefusal])
    | some failure =>
      have herror := written_eq_error_iff.mpr ⟨failure, hfound, rfl⟩
      obtain ⟨time, htime⟩ := exists_time_of_written_eq_error herror
      exact ⟨time, herror.trans (congrArg _ htime)⟩

/-! ### The outputs of a feed -/

/-- What a feed comes to once its file is read: a mailbox in a form, perhaps with something around
it, or an index, or nothing for an output it does not know. -/
theorem feed_cases {files : Files} {path : String} {input : Bytes}
    (hread : files.read path = .ok input) (settings : Settings) (request : FeedRequest) :
    (∃ form around,
        ((form = .mail ∨ form = .rss) ↔ (request.output = "mail" ∨ request.output = "rss"))
        ∧ feed files path settings request
          = (written form (policy settings request) input).map around)
      ∨ (request.output = "index" ∧ ∃ output, feed files path settings request = .ok output)
      ∨ (request.output ∉ feedOutputs
        ∧ feed files path settings request
          = .error (.unknownOutput "Target" request.output
              ("targets: " ++ ", ".intercalate feedOutputs))) := by
  have hplain (form : Form) : written form (policy settings request) input
      = (written form (policy settings request) input).map id := by
    cases written form (policy settings request) input <;> rfl
  have hinput : read files path = .ok input := by
    rw [read, hread]
    rfl
  generalize hresult : feed files path settings request = result
  rw [feed, hinput] at hresult
  dsimp only [bind, Except.bind] at hresult
  split at hresult
  · next h => exact .inl ⟨.html settings.layout, id, by simp [h], hresult.symm.trans (hplain _)⟩
  · next h => exact .inl ⟨.html .rows, id, by simp [h], hresult.symm.trans (hplain _)⟩
  · next h => exact .inl ⟨.mail, id, by simp [h], hresult.symm.trans (hplain _)⟩
  · next h =>
    -- the items of a channel stand between its head and its tail
    refine .inl ⟨.rss, fun items => Rss.channelHead request.title settings.siteTop request.title
      ++ items ++ Rss.channelTail, by simp [h], ?_⟩
    rw [← hresult]
    cases written .rss (policy settings request) input <;> rfl
  · next h => exact .inl ⟨.json, id, by simp [h], hresult.symm.trans (hplain _)⟩
  · next h => exact .inr (.inl ⟨h, _, hresult.symm⟩)
  · next hhtml hrows hmail hrss hjson hindex =>
    refine .inr (.inr ⟨?_, hresult.symm⟩)
    simp only [feedOutputs, List.mem_cons, List.not_mem_nil, or_false, not_or]
    exact ⟨hhtml, hrows, hmail, hrss, hjson, hindex⟩

/-- A feed ends with a date that cannot be written if and only if it is a mailbox or a channel, its
file can be read, and one of the posts it shows has a date that mail headers have no form for. It
fails for nothing else but a file that cannot be read and an output it does not know; in particular
its pages never ask the posts for positions that they do not have. -/
theorem feed_noMailDate_iff (files : Files) (path : String) (settings : Settings)
    (request : FeedRequest) :
    ((∃ time, feed files path settings request = .error (.badFeed (.noMailDate time)))
        ↔ (request.output = "mail" ∨ request.output = "rss")
          ∧ ∃ input, files.read path = .ok input
            ∧ ∃ post ∈ shown (policy settings request) input, post.time.hasMailDate = false)
      ∧ (∀ error, feed files path settings request = .error error →
        (∃ cause, files.read path = .error cause ∧ error = .unreadable path cause)
          ∨ (request.output ∉ feedOutputs
            ∧ error = .unknownOutput "Target" request.output
                ("targets: " ++ ", ".intercalate feedOutputs))
          ∨ ∃ time, error = .badFeed (.noMailDate time))
      ∧ ∀ posts : List Post, posts.length ≤ Window.lastPosition →
        (policy settings request).provide? posts
          = some ((policy settings request).provide posts) := by
  have hpages (posts : List Post) (h : posts.length ≤ Window.lastPosition) :=
    ((policy settings request).isProvided h).provide?_eq
  cases hread : files.read path with
  | error cause =>
    have hfeed : feed files path settings request = .error (.unreadable path cause) := by
      rw [feed, read, hread]
      rfl
    rw [hfeed]
    refine ⟨⟨?_, ?_⟩, ?_, hpages⟩
    · rintro ⟨time, h⟩
      exact absurd (Except.error.inj h) (by simp)
    · rintro ⟨-, input, h, -⟩
      exact absurd h (by simp)
    · rintro error herror
      exact .inl ⟨cause, rfl, (Except.error.inj herror).symm⟩
  | ok input =>
    have hsame : (∃ input', (.ok input : Except ReadError Bytes) = .ok input'
          ∧ ∃ post ∈ shown (policy settings request) input', post.time.hasMailDate = false)
        ↔ ∃ post ∈ shown (policy settings request) input, post.time.hasMailDate = false := by
      simp
    rw [hsame]
    rcases feed_cases hread settings request with
      ⟨form, around, hform, hfeed⟩ | ⟨hindex, output, hfeed⟩ | ⟨hunknown, hfeed⟩
    · -- what stands around a mailbox does not change whether it can be written
      have hmap (error : CommandError) : feed files path settings request = .error error
          ↔ written form (policy settings request) input = .error error := by
        rw [hfeed]
        cases written form (policy settings request) input <;> simp [Except.map]
      simp only [hmap]
      rw [written_noMailDate_iff, hform]
      exact ⟨Iff.rfl, fun error h => .inr (.inr (exists_time_of_written_eq_error h)), hpages⟩
    · rw [hfeed, hindex]
      exact ⟨by simp, fun error h => absurd h (by simp), hpages⟩
    · rw [hfeed]
      refine ⟨⟨?_, ?_⟩, fun error h => .inr (.inl ⟨hunknown, (Except.error.inj h).symm⟩), hpages⟩
      · rintro ⟨time, h⟩
        exact absurd (Except.error.inj h) (by simp)
      · rintro ⟨hmail | hrss, -⟩
        · exact absurd (by simp [hmail, feedOutputs]) hunknown
        · exact absurd (by simp [hrss, feedOutputs]) hunknown

/-- A message from the last hour of the year 9999, west of Greenwich: in universal time it is from
the year 10000, and cannot be written as mail again. -/
theorem feed_last_hour :
    let input := Bytes.ascii "Subject: t\nFrom: a\nDate: 31 Dec 9999 23:30 -0100\n\nx"
    let files : Files := ⟨fun _ => .ok input, fun _ => true⟩
    ∃ time, feed files "in.mbox" {} { output := "mail" }
      = .error (.badFeed (.noMailDate time)) := by
  intro input files
  have hfeed : feed files "in.mbox" {} { output := "mail" }
      = written .mail (policy {} { output := "mail" }) input := rfl
  rw [hfeed, written_noMailDate_iff]
  exact ⟨.inl rfl, by decide +kernel⟩

end MarkupFeed.Command
