import MarkupFeed.Feed.Writer
import MarkupFeed.Proofs.Sink

/-!
# Posts in front of a sink that takes everything

Nothing but a date that a form needs can keep a post from being written then: `Piece.refusal` says
so of a piece, `Form.refusal` of a post. Posts are written one after the other, up to the first that
is refused: `postAll_unlimited`.
-/

namespace MarkupFeed.Feed

namespace Piece

/-- Why a piece is not written although the sink takes everything. -/
def refusal : Piece → Option (Failure Empty)
  | needsMailDate time => if time.hasMailDate then none else some (.noMailDate time)
  | text _ | value _ => none

theorem write_unlimited (piece : Piece) :
    piece.write Sink.unlimited () = ⟨(), (), piece.octets, piece.refusal⟩ := by
  cases piece with
  | needsMailDate time => rfl
  | text octets => simp [write, Script.run_text_unlimited, refusal]
  | value octets => simp [write, Script.run_text_unlimited, refusal]

/-- Pieces are written up to the first that is refused. -/
theorem error_writeAll_unlimited (pieces : List Piece) :
    (writeAll Sink.unlimited pieces ()).error = pieces.findSome? refusal := by
  induction pieces with
  | nil => rfl
  | cons piece rest ih =>
    rw [writeAll, write_unlimited, List.findSome?_cons]
    cases piece.refusal with
    | none => exact ih
    | some failure => rfl

/-- Where none is refused, all of them are written. -/
theorem writeAll_unlimited {pieces : List Piece} (h : pieces.findSome? refusal = none) :
    writeAll Sink.unlimited pieces () = ⟨(), (), output pieces, none⟩ := by
  induction pieces with
  | nil => rfl
  | cons piece rest ih =>
    rw [List.findSome?_eq_none_iff, List.forall_mem_cons] at h
    rw [writeAll, write_unlimited, h.1, ih (List.findSome?_eq_none_iff.mpr h.2)]
    rfl

end Piece

namespace Form

/-- Why a post is not published in a form although the sink takes everything. -/
def refusal : Form → Post → Option (Failure Empty)
  | mail, post | rss, post => (Piece.needsMailDate post.time).refusal
  | html _, _ | json, _ => none

/-- The pieces of a post are refused for its date only. -/
theorem findSome?_pieces (form : Form) (written : Nat) (post : Post) :
    (form.pieces written post).findSome? Piece.refusal = form.refusal post := by
  have hdate (front back : Bytes) :
      [.text front, .needsMailDate post.time, .text back].findSome? Piece.refusal
        = (Piece.needsMailDate post.time).refusal := by
    have htext (octets : Bytes) : (Piece.text octets).refusal = none := rfl
    rw [List.findSome?_cons, htext, List.findSome?_cons]
    cases (Piece.needsMailDate post.time).refusal <;> rfl
  cases form with
  | html layout => rfl
  | mail => exact hdate _ _
  | rss => exact hdate _ _
  | json => rfl

/-- What is refused is a date of a mail header, and it is missing. -/
theorem refusal_eq_some_iff {form : Form} {post : Post} {failure : Failure Empty} :
    form.refusal post = some failure
      ↔ (form = mail ∨ form = rss) ∧ post.time.hasMailDate = false
        ∧ failure = .noMailDate post.time := by
  have hdate : (Piece.needsMailDate post.time).refusal = some failure
      ↔ post.time.hasMailDate = false ∧ failure = .noMailDate post.time := by
    rw [Piece.refusal]
    cases post.time.hasMailDate <;> simp [eq_comm]
  cases form <;> simp [refusal, hdate]

end Form

namespace Writer

/-- The writer after a post. -/
def afterPost (writer : Writer Unit) (form : Form) (post : Post) : Writer Unit :=
  { writer with
    written := writer.written + 1
    parts := Piece.output (form.pieces writer.written post) :: writer.parts }

theorem output_afterPost (writer : Writer Unit) (form : Form) (post : Post) :
    (writer.afterPost form post).output
      = writer.output ++ Piece.output (form.pieces writer.written post) := by
  rw [output, output, afterPost, List.reverse_cons, List.flatten_append, List.flatten_singleton]

theorem error_post_unlimited (writer : Writer Unit) (form : Form) (post : Post) :
    (Writer.post Sink.unlimited form writer post).error = form.refusal post := by
  have herror := Piece.error_writeAll_unlimited (form.pieces writer.written post)
  rw [form.findSome?_pieces] at herror
  rw [Writer.post]
  dsimp only
  split
  · exact herror
  · exact herror

theorem post_unlimited (writer : Writer Unit) {form : Form} {post : Post}
    (h : form.refusal post = none) :
    Writer.post Sink.unlimited form writer post = ⟨writer.afterPost form post, none⟩ := by
  rw [← form.findSome?_pieces writer.written] at h
  rw [Writer.post, Writer.write, Piece.writeAll_unlimited h]
  rfl

end Writer

/-- Posts are written up to the first that is refused. -/
theorem error_postAll_unlimited (form : Form) (writer : Writer Unit) (posts : List Post) :
    (Pipeline.postAll (Writer.channel Sink.unlimited form) ⟨[], writer⟩ posts).error
      = posts.findSome? form.refusal := by
  induction posts generalizing writer with
  | nil => rfl
  | cons post rest ih =>
    -- there is no stage in front of the channel
    have hpost : Pipeline.post (Writer.channel Sink.unlimited form) ⟨[], writer⟩ post
        = ⟨⟨[], (writer.post Sink.unlimited form post).state⟩, form.refusal post⟩ :=
      congrArg (Attempt.mk _) (writer.error_post_unlimited form post)
    rw [Pipeline.postAll, hpost, List.findSome?_cons]
    cases form.refusal post with
    | none => exact ih _
    | some failure => rfl

/-- The writer after posts. -/
def Writer.afterPosts (writer : Writer Unit) (form : Form) (posts : List Post) : Writer Unit :=
  posts.foldl (fun writer post => writer.afterPost form post) writer

theorem Writer.output_afterPosts (writer : Writer Unit) (form : Form) (posts : List Post) :
    (writer.afterPosts form posts).output
      = writer.output ++ form.outputAfter writer.written posts := by
  induction posts generalizing writer with
  | nil => exact (List.append_nil _).symm
  | cons post rest ih =>
    refine (ih (writer.afterPost form post)).trans ?_
    rw [writer.output_afterPost, List.append_assoc]
    rfl

theorem Writer.written_afterPosts (writer : Writer Unit) (form : Form) (posts : List Post) :
    (writer.afterPosts form posts).written = writer.written + posts.length := by
  induction posts generalizing writer with
  | nil => rfl
  | cons post rest ih =>
    refine (ih (writer.afterPost form post)).trans ?_
    rw [List.length_cons, Nat.add_comm rest.length, ← Nat.add_assoc]
    rfl

/-- Where none is refused, the writer takes all of them. -/
theorem postAll_eq_afterPosts {form : Form} (writer : Writer Unit) {posts : List Post}
    (h : posts.findSome? form.refusal = none) :
    Pipeline.postAll (Writer.channel Sink.unlimited form) ⟨[], writer⟩ posts
      = ⟨⟨[], writer.afterPosts form posts⟩, none⟩ := by
  induction posts generalizing writer with
  | nil => rfl
  | cons post rest ih =>
    rw [List.findSome?_eq_none_iff, List.forall_mem_cons] at h
    have hpost : Pipeline.post (Writer.channel Sink.unlimited form) ⟨[], writer⟩ post
        = ⟨⟨[], writer.afterPost form post⟩, none⟩ := by
      rw [Pipeline.post, Pipeline.postThrough, Writer.channel]
      dsimp only
      rw [writer.post_unlimited h.1]
    rw [Pipeline.postAll, hpost]
    exact ih (writer.afterPost form post) (List.findSome?_eq_none_iff.mpr h.2)

/-- Where none is refused, all of them are written one after the other. -/
theorem postAll_unlimited {form : Form} (writer : Writer Unit) {posts : List Post}
    (h : posts.findSome? form.refusal = none) :
    (Pipeline.postAll (Writer.channel Sink.unlimited form) ⟨[], writer⟩ posts).state.state.output
      = writer.output ++ form.outputAfter writer.written posts := by
  rw [postAll_eq_afterPosts writer h]
  exact writer.output_afterPosts form posts

end MarkupFeed.Feed
