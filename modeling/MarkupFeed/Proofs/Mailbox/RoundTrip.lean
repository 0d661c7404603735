import MarkupFeed.Proofs.Feed.Writer
import MarkupFeed.Proofs.Mailbox.Messages

/-!
# Written mailboxes are read back

The posts of a mailbox can be written as a mailbox and read again: `posts_written`.

The two halves meet in `Post.IsMail`: every post of a mailbox is one such (`isMail_of_mem_readAll`),
and what is written for such posts gives them back (`Draft.gather_output`).
-/

namespace MarkupFeed

/-! ### Writing -/

namespace Feed

/-- Posts with mail dates are written one after the other, as their messages. -/
theorem output_postAll (writer : Writer Unit) {posts : List Post}
    (h : ∀ post ∈ posts, post.time.hasMailDate = true) :
    (Pipeline.postAll (Writer.channel Sink.unlimited .mail) ⟨[], writer⟩ posts).error = none
      ∧ (Pipeline.postAll (Writer.channel Sink.unlimited .mail) ⟨[], writer⟩
            posts).state.state.output
        = writer.output ++ Form.mail.outputAfter writer.written posts := by
  have hrefusal : posts.findSome? Form.mail.refusal = none :=
    List.findSome?_eq_none_iff.mpr fun post hpost => if_pos (h post hpost)
  exact ⟨(error_postAll_unlimited .mail writer posts).trans hrefusal,
    postAll_unlimited writer hrefusal⟩

end Feed

/-! ### Reading again -/

namespace Mailbox

open Feed

/-- What a mailbox gives can be written as a mailbox, and is read from there again, post by post and
field by field, if all its times can be written at all. -/
theorem posts_written (input : Bytes)
    (h : ∀ post ∈ posts input, post.time.hasMailDate = true) :
    let written := Pipeline.postAll (Writer.channel Sink.unlimited .mail) ⟨[], { memory := () }⟩
      (posts input)
    written.error = none ∧ posts written.state.state.output = posts input := by
  intro written
  obtain ⟨herror, houtput⟩ := output_postAll { memory := () } h
  have hmail : ∀ post ∈ posts input, post.IsMail ∧ post.time.hasMailDate = true := by
    intro post hpost
    exact ⟨isMail_of_mem_readAll [input] post hpost, h post hpost⟩
  refine ⟨herror, ?_⟩
  rw [houtput, posts, posts_readAll, List.flatten_singleton]
  exact Draft.gather_output {} .headers 0 hmail

/-- A mailbox with quoted lines, a folded header, an odd guid and a second message. -/
theorem posts_written_quoted :
    let input := Utf8.encode ("From x\nSubject: a\n  b\nMessage-ID: <<1 >\n\n>From y\n\n>>From\n\n"
      ++ "From z\nTags: t\n\nw\\\n")
    (∀ post ∈ posts input, post.time.hasMailDate = true)
      ∧ let written := Pipeline.postAll (Writer.channel Sink.unlimited .mail)
          ⟨[], { memory := () }⟩ (posts input)
        written.error = none ∧ posts written.state.state.output = posts input := by
  intro input
  have h : ∀ post ∈ posts input, post.time.hasMailDate = true := by decide +kernel
  exact ⟨h, posts_written input h⟩

end Mailbox

end MarkupFeed
