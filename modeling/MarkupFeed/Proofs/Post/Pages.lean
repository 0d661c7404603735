import MarkupFeed.Proofs.Post.Policy

/-!
# Pages partition what is shown

The pages of a list are counted by where they begin (`exists_pageCount`), and the first so many of
them, one after the other, are the beginning of the list (`flatMap_pages`); so a list falls into its
pages (`exists_arePages`). A window that lies within its buffer shows of a page what the page has of
the posts shown (`Window.IsInside.shown_page`), whichever policy opened it. Main statement:
`Policy.pages_partition`.
-/

namespace MarkupFeed

/-! ### Pages of a list -/

section Lists

variable {α : Type} {list : List α} {length : Nat}

/-- The list falls into so many pages, all of one length but the last one, and no page behind those
has anything on it. -/
structure ArePages (list : List α) (length count : Nat) (pages : Nat → List α) : Prop where
  flatMap_eq : (List.range count).flatMap pages = list
  ne_nil_iff : ∀ number, pages number ≠ [] ↔ number < count
  length_eq : ∀ number, number + 1 < count → (pages number).length = length
  length_le : ∀ number, (pages number).length ≤ length

/-- The first pages of a list, one after the other, are its beginning. -/
theorem flatMap_pages (list : List α) (length count : Nat) :
    ((List.range count).flatMap fun number => (list.drop (number * length)).take length)
      = list.take (count * length) := by
  induction count with
  | zero => simp
  | succ count ih =>
    rw [List.range_succ, List.flatMap_append, ih, List.flatMap_singleton, Nat.succ_mul,
      List.take_add]

/-- There are so many pages that begin within the list. -/
theorem exists_pageCount (list : List α) (hlength : 1 ≤ length) :
    ∃ count, ∀ number, number < count ↔ number * length < list.length := by
  refine ⟨(list.length + length - 1) / length, fun number => ?_⟩
  rw [← Nat.succ_le_iff, Nat.le_div_iff_mul_le hlength, Nat.succ_mul]
  omega

theorem exists_arePages (list : List α) (hlength : 1 ≤ length) :
    ∃ count, ArePages list length count
      fun number => (list.drop (number * length)).take length := by
  obtain ⟨count, hcount⟩ := exists_pageCount list hlength
  refine ⟨count, ?_, ?_, ?_, ?_⟩
  · have hall : list.length ≤ count * length := Nat.not_lt.mp fun h =>
      Nat.lt_irrefl count ((hcount count).mpr h)
    rw [flatMap_pages, List.take_of_length_le hall]
  · intro number
    rw [hcount, ne_eq, List.take_eq_nil_iff, List.drop_eq_nil_iff]
    omega
  · intro number hnumber
    have hnext := (hcount (number + 1)).mp hnumber
    rw [Nat.succ_mul] at hnext
    rw [List.length_take, List.length_drop]
    omega
  · intro number
    exact List.length_take_le _ _

end Lists

/-! ### Pages of a window -/

/-- The pages of a window within its buffer, whoever has opened it, are cut off where the window
ends, and partition the posts it shows. -/
theorem Window.IsInside.arePages_page {window : Window} (h : window.IsInside)
    (hlength : window.posts.length ≤ Window.lastPosition) :
    (∀ number length, window.page number length
        = { window with
          start := min (window.start + number * length) window.stop
          stop := min (window.start + number * length + length) window.stop })
      ∧ ∀ length, 1 ≤ length →
        ∃ count, ArePages window.shown length count
          fun number => (window.page number length).shown := by
  constructor
  · exact h.page_eq hlength
  · intro length hpos
    have hpages : (fun number => (window.page number length).shown)
        = fun number => (window.shown.drop (number * length)).take length :=
      funext fun number => h.shown_page hlength number length
    rw [hpages]
    exact exists_arePages window.shown hpos

namespace Policy

/-- Pages narrow the window of a policy to exactly the posts from `number * length` up to the next
page, as far as the window has any, however large the two are. Pages of one post or more partition
the posts the policy shows: so many pages from the first one on have posts, these come to the posts
shown, one page after the other, and all but the last are full. -/
theorem pages_partition (policy : Policy) (posts : List Post)
    (h : posts.length ≤ Window.lastPosition) :
    let window := policy.provide posts
    let page (number length : Nat) := (policy.paginated number length).provide posts
    (∀ number length, page number length
        = { window with
          start := min (window.start + number * length) window.stop
          stop := min (window.start + number * length + length) window.stop })
      ∧ ∀ length, 1 ≤ length →
        ∃ count, ArePages window.shown length count fun number => (page number length).shown := by
  intro window page
  obtain ⟨-, hinside, hle⟩ := policy.isProvided h
  exact hinside.arePages_page (Nat.le_trans hle h)

/-- Two pages of a window that begins behind posts it hides, and one that would begin behind the
last position. -/
theorem pages_partition_behind :
    let posts : List Post :=
      [{ guid := "a" }, { guid := "b" }, { guid := "c" }, { guid := "d" }, { guid := "e" }]
    let policy : Policy := .paginated .everything 1 2
    posts.length ≤ Window.lastPosition ∧ 1 ≤ 1
      ∧ (policy.paginated 1 1).provide posts = ⟨posts, 3, 4⟩
      ∧ (policy.paginated Window.lastPosition 2).provide posts = ⟨posts, 4, 4⟩
      ∧ ∃ count, ArePages (policy.provide posts).shown 1 count
        fun number => ((policy.paginated number 1).provide posts).shown := by
  intro posts policy
  have h : posts.length ≤ Window.lastPosition := by decide
  obtain ⟨hwindow, hpages⟩ := pages_partition policy posts h
  exact ⟨h, Nat.le_refl 1, (hwindow 1 1).trans (by decide),
    (hwindow Window.lastPosition 2).trans (by decide +kernel), hpages 1 (Nat.le_refl 1)⟩

end Policy

end MarkupFeed
