import MarkupFeed.Proofs.Feed.Publishing
import MarkupFeed.Proofs.Mailbox.RoundTrip

/-!
# Publishing a mailbox twice

A mailbox that was published as a mailbox is published as it is.

The first page of a feed shows posts in order, all of them wanted and no more than fit
(`shown_policy`). What stands like this is shown unchanged (`Shows.shown_eq`), and what is written
for it gives it back when it is read (`posts_output`). Main statement: `feed_of_feed_eq`.
-/

namespace MarkupFeed

/-! ### Posts that stand in order -/

/-- Posts that are in order are not moved. -/
theorem PostOrder.sort_eq_self {order : PostOrder} {posts : List Post}
    (h : posts.Pairwise fun a b => order.compare a b ≠ .gt) : order.sort posts = posts := by
  refine List.mergeSort_of_pairwise (h.imp ?_)
  intro a b hle
  simpa using hle

/-- The first page of a window that begins with its buffer. -/
theorem Window.shown_page_zero {window : Window} (h : window.start = 0) (length : Nat) :
    (window.page 0 length).shown = window.shown.take (position length) := by
  have hstart : (window.page 0 length).start = 0 := by simp [page, position, h]
  have hstop : (window.page 0 length).stop = min (position length) window.stop := by
    simp [page, position, h]
  have hposts : (window.page 0 length).posts = window.posts := rfl
  rw [shown, shown, hstart, hstop, hposts, h, List.take_take]
  rfl

namespace Command

open Feed

/-! ### The posts on a first page -/

/-- Whether a feed is asked for the post. -/
def isWanted (settings : Settings) (request : FeedRequest) (post : Post) : Bool :=
  request.select.isEmpty || request.select.contains (settings.order.key post)

variable {settings : Settings} {request : FeedRequest}

/-- The first page of a feed that merges no posts: those it is asked for, in order, and as many of
them as fit. -/
theorem shown_policy (hpage : request.page = 0) (hcompact : settings.compact = false)
    (posts : List Post) :
    ((policy settings request).provide posts).shown
      = ((settings.order.sort posts).filter (isWanted settings request)).take
          (Window.position settings.pageLength) := by
  let ordered := Policy.everything.ordered settings.order
  have hinside : (ordered.provide posts).IsInside := (Window.isInside_whole posts).rebuild _
  have hshown : (ordered.provide posts).shown = settings.order.sort posts :=
    ((Window.isInside_whole posts).shown_rebuild _).trans
      (congrArg settings.order.sort (Window.shown_whole posts))
  -- the posts asked for are all, or those with one of the keys
  by_cases hselect : request.select.isEmpty = true
  · have hpolicy : policy settings request = ordered.paginated 0 settings.pageLength := by
      simp [policy, hcompact, hselect, hpage, ordered]
    have hwanted : isWanted settings request = fun _ => true := by
      funext post
      simp [isWanted, hselect]
    rw [hpolicy, hwanted, List.filter_true]
    exact (Window.shown_page_zero rfl _).trans (congrArg _ hshown)
  · have hpolicy : policy settings request
        = (ordered.selected settings.order request.select).paginated 0 settings.pageLength := by
      simp [policy, hcompact, hselect, hpage, ordered]
    have hwanted : isWanted settings request
        = fun post => request.select.contains (settings.order.key post) := by
      funext post
      simp [isWanted, hselect]
    rw [hpolicy, hwanted, ← hshown]
    exact (Window.shown_page_zero rfl _).trans (congrArg _ (hinside.shown_rebuild _))

/-- Posts as they stand on the first page of a feed. -/
structure IsPage (settings : Settings) (request : FeedRequest) (posts : List Post) : Prop where
  sorted : posts.Pairwise fun a b => settings.order.compare a b ≠ .gt
  wanted : ∀ post ∈ posts, isWanted settings request post = true
  length_le : posts.length ≤ Window.position settings.pageLength

theorem isPage_shown (hpage : request.page = 0) (hcompact : settings.compact = false)
    (posts : List Post) :
    IsPage settings request ((policy settings request).provide posts).shown := by
  rw [shown_policy hpage hcompact]
  refine ⟨?_, ?_, List.length_take_le _ _⟩
  · exact (settings.order.isStableSort_sort posts).sorted.sublist
      ((List.take_sublist _ _).trans List.filter_sublist)
  · intro post hpost
    exact (List.mem_filter.mp (List.mem_of_mem_take hpost)).2

/-- A first page is its own first page. -/
theorem IsPage.shown_eq {posts : List Post} (h : IsPage settings request posts)
    (hpage : request.page = 0) (hcompact : settings.compact = false) :
    ((policy settings request).provide posts).shown = posts := by
  rw [shown_policy hpage hcompact, PostOrder.sort_eq_self h.sorted,
    List.filter_eq_self.mpr h.wanted,
    List.take_of_length_le h.length_le]

/-- A page shows no posts but those of the mailbox that can be published. -/
theorem mem_of_mem_shown (hpage : request.page = 0) (hcompact : settings.compact = false)
    (input : Bytes) :
    ∀ post ∈ shown (policy settings request) input,
      post ∈ Mailbox.posts input ∧ post.isValid = true := by
  intro post hpost
  rw [shown, shown_policy hpage hcompact] at hpost
  have hsorted := (List.mem_filter.mp (List.mem_of_mem_take hpost)).1
  exact List.mem_filter.mp (List.mem_mergeSort.mp hsorted)

/-! ### Publishing again -/

/-- What is written for posts of a mailbox gives them back. -/
theorem posts_output {input : Bytes} {posts : List Post}
    (h : ∀ post ∈ posts, post ∈ Mailbox.posts input ∧ post.time.hasMailDate = true) :
    Mailbox.posts (Form.mail.output posts) = posts := by
  have hmail : ∀ post ∈ posts, post.IsMail ∧ post.time.hasMailDate = true := by
    intro post hpost
    exact ⟨Mailbox.isMail_of_mem_readAll [input] post (h post hpost).1, (h post hpost).2⟩
  rw [Mailbox.posts, Mailbox.posts_readAll, List.flatten_singleton]
  exact Draft.gather_output {} .headers 0 hmail

/-- A feed in the form of a mailbox. -/
theorem feed_mail {files : Files} {path : String} {input : Bytes}
    (hread : files.read path = .ok input) (houtput : request.output = "mail")
    (hdates : ∀ post ∈ shown (policy settings request) input, post.time.hasMailDate = true) :
    feed files path settings request
      = .ok (Form.mail.output (shown (policy settings request) input)) := by
  have hrefusal : (shown (policy settings request) input).findSome? Form.mail.refusal = none :=
    List.findSome?_eq_none_iff.mpr fun post hpost => if_pos (hdates post hpost)
  have hinput : read files path = .ok input := by
    rw [read, hread]
    rfl
  rw [feed, hinput]
  dsimp only [bind, Except.bind]
  rw [houtput]
  show written .mail (policy settings request) input = _
  rw [written_eq, hrefusal]
  rfl

/-- The first page of a mailbox can be published as a mailbox if the times of all posts can be
written at all. It is then read back post by post; and publishing it once more, wherever it is read
from, gives it again, octet by octet. -/
theorem feed_of_feed_eq {files : Files} {path : String} {input : Bytes}
    (hread : files.read path = .ok input) (houtput : request.output = "mail")
    (hpage : request.page = 0) (hcompact : settings.compact = false)
    (hdates : ∀ post ∈ Mailbox.posts input, post.time.hasMailDate = true) :
    ∃ output, feed files path settings request = .ok output
      ∧ Mailbox.posts output = shown (policy settings request) input
      ∧ ∀ (files' : Files) (path' : String), files'.read path' = .ok output →
        feed files' path' settings request = .ok output := by
  have hposts := mem_of_mem_shown hpage hcompact input
  have hshown : ∀ post ∈ shown (policy settings request) input, post.time.hasMailDate = true :=
    fun post hpost => hdates post (hposts post hpost).1
  have hback : Mailbox.posts (Form.mail.output (shown (policy settings request) input))
      = shown (policy settings request) input :=
    posts_output fun post hpost => ⟨(hposts post hpost).1, hshown post hpost⟩
  -- what is read back can all be published, and is a first page already
  have hagain : shown (policy settings request)
        (Form.mail.output (shown (policy settings request) input))
      = shown (policy settings request) input := by
    have hvalid := List.filter_eq_self.mpr fun post hpost => (hposts post hpost).2
    rw [shown, hback, hvalid]
    exact (isPage_shown hpage hcompact _).shown_eq hpage hcompact
  refine ⟨_, feed_mail hread houtput hshown, hback, ?_⟩
  intro files' path' hread'
  have hfeed := feed_mail hread' houtput (hagain.symm ▸ hshown)
  rwa [hagain] at hfeed

/-- Four messages, of which one cannot be published and one does not fit on the page; the two that
are shown have the same score. -/
theorem feed_of_feed_scores :
    let input := Bytes.ascii ("From x\nSubject: t\nFrom: a\nScore: 2\n\nlow\n"
      ++ "From x\nSubject: u\nFrom: b\nScore: 7\n\n>From high\n"
      ++ "From x\nSubject: v\nScore: 7\n\nlost\nFrom x\nSubject: w\nFrom: c\nScore: 7\n\nlast\n")
    let files : Files := ⟨fun _ => .ok input, fun _ => true⟩
    let settings : Settings := { order := .score, pageLength := 2 }
    let request : FeedRequest := { output := "mail", select := ["7", "2"] }
    (files.read "in.mbox" = .ok input ∧ settings.compact = false
        ∧ ∀ post ∈ Mailbox.posts input, post.time.hasMailDate = true)
      ∧ ∃ output, feed files "in.mbox" settings request = .ok output
        ∧ (Mailbox.posts output).map Post.title = ["u", "w"]
        ∧ ∀ (files' : Files) (path' : String), files'.read path' = .ok output →
          feed files' path' settings request = .ok output := by
  intro input files settings request
  have hinput : Mailbox.posts input
      = [{ title := "t", author := "a", score := 2, content := "low" },
        { title := "u", author := "b", score := 7, content := "From high" },
        { title := "v", score := 7, content := "lost" },
        { title := "w", author := "c", score := 7, content := "last" }] := by
    rw [show input = _ from Bytes.ascii_append _ _, Bytes.ascii_append, Bytes.ascii_ofList,
      Bytes.ascii_ofList, Bytes.ascii_ofList]
    decide +kernel
  have hdates : ∀ post ∈ Mailbox.posts input, post.time.hasMailDate = true := by
    rw [hinput]
    decide
  have hread : files.read "in.mbox" = .ok input := rfl
  have houtput : request.output = "mail" := rfl
  have hpage : request.page = 0 := rfl
  have hcompact : settings.compact = false := rfl
  obtain ⟨output, hfeed, hposts, hagain⟩ := feed_of_feed_eq hread houtput hpage hcompact hdates
  refine ⟨⟨hread, hcompact, hdates⟩, output, hfeed, ?_, hagain⟩
  rw [hposts, shown, hinput]
  cbv

end Command

end MarkupFeed
