import MarkupFeed.Post.Policy
import MarkupFeed.Proofs.Post.Order
import Mathlib.Data.List.Permutation

/-!
# Policies as functions on lists

What policies do to windows of a buffer, and what they are meant to do to lists of posts.

A window that lies within its buffer stays there (`IsInside.rebuild`, `IsInside.page`), so that no
position is ever asked for that the buffer does not have (`provide?_eq`). The posts a policy shows
are those it selects from the posts the policy inside it shows, whatever posts are hidden around
them (`shown_around`). Main statement: `provide_eq_select`.
-/

namespace MarkupFeed

/-! ### Windows -/

namespace Window

variable {window : Window}

/-- The window lies within its buffer. -/
structure IsInside (window : Window) : Prop where
  start_le_stop : window.start ≤ window.stop
  stop_le_length : window.stop ≤ window.posts.length

instance : Decidable window.IsInside :=
  decidable_of_iff (window.start ≤ window.stop ∧ window.stop ≤ window.posts.length)
    ⟨fun h => ⟨h.1, h.2⟩, fun h => ⟨h.start_le_stop, h.stop_le_length⟩⟩

/-- Puts other posts in place of those shown, in a buffer that refuses a window outside of it and
an end that is no position. -/
def rebuild? (window : Window) (change : List Post → List Post) : Option Window :=
  if window.IsInside ∧ window.start + (change window.shown).length ≤ lastPosition then
    some (window.rebuild change)
  else none

theorem isInside_whole (posts : List Post) : (whole posts).IsInside :=
  ⟨Nat.zero_le _, Nat.le_refl _⟩

theorem shown_whole (posts : List Post) : (whole posts).shown = posts := by
  simp [whole, shown]

theorem length_shown (h : window.IsInside) : window.shown.length = window.stop - window.start := by
  have hstop := h.stop_le_length
  simp only [shown, List.length_take, List.length_drop]
  omega

/-- The posts hidden in front are kept, those shown are changed, and those hidden behind are
kept. -/
theorem IsInside.rebuild (h : window.IsInside) (change : List Post → List Post) :
    (window.rebuild change).IsInside := by
  have hstart := h.start_le_stop
  have hstop := h.stop_le_length
  constructor
  · simp [Window.rebuild]
  · simp only [Window.rebuild, List.length_append, List.length_take, List.length_drop]
    omega

theorem IsInside.shown_rebuild (h : window.IsInside) (change : List Post → List Post) :
    (window.rebuild change).shown = change window.shown := by
  have hstart : (window.posts.take window.start).length = window.start := by
    have hstop := h.stop_le_length
    have hle := h.start_le_stop
    rw [List.length_take]
    omega
  rw [shown, Window.rebuild]
  dsimp only
  -- what stands in front of the changed posts is as long as before
  rw [List.append_assoc, List.drop_left' hstart, Nat.add_sub_cancel_left, List.take_left]

/-- A buffer does not grow when posts are dropped from the window. -/
theorem IsInside.length_rebuild_le (h : window.IsInside) {change : List Post → List Post}
    (hchange : (change window.shown).length ≤ window.shown.length) :
    (window.rebuild change).posts.length ≤ window.posts.length := by
  have hstart := h.start_le_stop
  have hstop := h.stop_le_length
  rw [length_shown h] at hchange
  simp only [Window.rebuild, List.length_append, List.length_take, List.length_drop]
  omega

theorem IsInside.page (h : window.IsInside) (number length : Nat) :
    (window.page number length).IsInside := by
  have hstop := h.stop_le_length
  constructor
  · simp only [Window.page, position]
    omega
  · simp only [Window.page]
    omega

/-- A number too large for a position lies behind all posts of a buffer, so that a page begins and
ends where the exact one does, as far as there are posts. -/
theorem IsInside.page_eq (h : window.IsInside) (hlength : window.posts.length ≤ lastPosition)
    (number length : Nat) :
    window.page number length
      = { window with
        start := min (window.start + number * length) window.stop
        stop := min (window.start + number * length + length) window.stop } := by
  have hstop := h.stop_le_length
  have hle := h.start_le_stop
  simp only [Window.page, position, mk.injEq, true_and]
  constructor <;> omega

theorem IsInside.shown_page (h : window.IsInside) (hlength : window.posts.length ≤ lastPosition)
    (number length : Nat) :
    (window.page number length).shown = (window.shown.drop (number * length)).take length := by
  have hstop := h.stop_le_length
  have hle := h.start_le_stop
  rw [h.page_eq hlength, shown]
  dsimp only
  rcases Nat.le_total window.stop (window.start + number * length) with hbehind | hbefore
  · -- the page lies behind the window
    have hnone : window.shown.length ≤ number * length := by
      rw [length_shown h]
      omega
    rw [List.drop_eq_nil_of_le hnone, Nat.min_eq_right hbehind, Nat.min_eq_right (by omega),
      Nat.sub_self, List.take_zero, List.take_nil]
  · rw [Nat.min_eq_left hbefore, shown, List.drop_take, List.drop_drop, List.take_take]
    congr 1
    omega

end Window

namespace Policy

open Window

/-! ### Merging posts of one guid -/

/-- Takes one more post: it is merged into the last one if they have the same guid. -/
def mergeLast (kept : List Post) (post : Post) : List Post :=
  match kept.getLast? with
  | some last =>
    if last.guid = post.guid then kept.dropLast ++ [absorb last post] else kept ++ [post]
  | none => [post]

theorem guid_absorb (first second : Post) : (absorb first second).guid = first.guid := by
  unfold absorb
  split <;> rfl

theorem compactAfter_eq_foldl (before : List Post) (last : Post) (posts : List Post) :
    before ++ compactAfter last posts = posts.foldl mergeLast (before ++ [last]) := by
  induction posts generalizing before last with
  | nil => rfl
  | cons post rest ih =>
    have hlast : (before ++ [last]).getLast? = some last := List.getLast?_concat
    rw [List.foldl_cons, compactAfter, mergeLast, hlast]
    dsimp only
    split
    · rw [ih, List.dropLast_concat]
    · rw [List.append_cons, ih]

/-- Posts are merged one after the other, each into the last one so far. -/
theorem compact_eq_foldl (posts : List Post) : compact posts = posts.foldl mergeLast [] := by
  cases posts with
  | nil => rfl
  | cons post rest => exact compactAfter_eq_foldl [] post rest

theorem length_compactAfter_le (last : Post) (posts : List Post) :
    (compactAfter last posts).length ≤ posts.length + 1 := by
  fun_induction compactAfter last posts with
  | case1 => simp
  | case2 last post rest hguid ih => simp only [List.length_cons]; omega
  | case3 last post rest hguid ih => simpa using ih

theorem length_compact_le (posts : List Post) : (compact posts).length ≤ posts.length := by
  cases posts with
  | nil => simp [compact]
  | cons post rest => exact length_compactAfter_le post rest

/-! ### Policies on a buffer that refuses what it does not have -/

/-- The window a policy opens on a buffer that refuses positions it does not have. -/
def provide? : Policy → List Post → Option Window
  | everything, posts => some (.whole posts)
  | ordered inner order, posts => (inner.provide? posts).bind (·.rebuild? order.sort)
  | paginated inner page length, posts => (inner.provide? posts).map (·.page page length)
  | compacted inner, posts => (inner.provide? posts).bind (·.rebuild? compact)
  | selected inner order keys, posts =>
    (inner.provide? posts).bind
      (·.rebuild? (·.filter fun post => keys.contains (order.key post)))

/-- The window that a policy really opens lies within a buffer that did not grow. -/
structure IsProvided (policy : Policy) (posts : List Post) : Prop where
  provide?_eq : policy.provide? posts = some (policy.provide posts)
  isInside : (policy.provide posts).IsInside
  length_le : (policy.provide posts).posts.length ≤ posts.length

/-- A window that is rebuilt from no more posts than it shows is not refused. -/
theorem rebuild?_eq {window : Window} (h : window.IsInside)
    (hlength : window.posts.length ≤ lastPosition) {change : List Post → List Post}
    (hchange : (change window.shown).length ≤ window.shown.length) :
    window.rebuild? change = some (window.rebuild change) := by
  have hstop := h.stop_le_length
  have hstart := h.start_le_stop
  rw [length_shown h] at hchange
  rw [rebuild?, if_pos ⟨h, by omega⟩]

theorem isProvided (policy : Policy) {posts : List Post} (h : posts.length ≤ lastPosition) :
    policy.IsProvided posts := by
  induction policy with
  | everything => exact ⟨rfl, isInside_whole posts, Nat.le_refl _⟩
  | ordered inner order ih =>
    have hsort (list : List Post) : (order.sort list).length ≤ list.length :=
      Nat.le_of_eq (List.length_mergeSort list)
    refine ⟨?_, ih.isInside.rebuild _,
      Nat.le_trans (ih.isInside.length_rebuild_le (hsort _)) ih.length_le⟩
    rw [provide?, ih.provide?_eq]
    exact rebuild?_eq ih.isInside (Nat.le_trans ih.length_le h) (hsort _)
  | paginated inner page length ih =>
    refine ⟨?_, ih.isInside.page page length, ih.length_le⟩
    rw [provide?, ih.provide?_eq]
    rfl
  | compacted inner ih =>
    refine ⟨?_, ih.isInside.rebuild _,
      Nat.le_trans (ih.isInside.length_rebuild_le (length_compact_le _)) ih.length_le⟩
    rw [provide?, ih.provide?_eq]
    exact rebuild?_eq ih.isInside (Nat.le_trans ih.length_le h) (length_compact_le _)
  | selected inner order keys ih =>
    have hfilter (list : List Post) :
        (list.filter fun post => keys.contains (order.key post)).length ≤ list.length :=
      List.length_filter_le _ _
    refine ⟨?_, ih.isInside.rebuild _,
      Nat.le_trans (ih.isInside.length_rebuild_le (hfilter _)) ih.length_le⟩
    rw [provide?, ih.provide?_eq]
    exact rebuild?_eq ih.isInside (Nat.le_trans ih.length_le h) (hfilter _)

/-! ### Policies on lists -/

/-- The policy made from `inner` as `outer` is made from `everything`. -/
def around : Policy → Policy → Policy
  | everything, inner => inner
  | ordered outer order, inner => .ordered (outer.around inner) order
  | paginated outer page length, inner => .paginated (outer.around inner) page length
  | compacted outer, inner => .compacted (outer.around inner)
  | selected outer order keys, inner => .selected (outer.around inner) order keys

theorem around_everything (policy : Policy) : policy.around everything = policy := by
  induction policy <;> simp_all [around]

/-- What a policy shows depends only on the posts that the policy inside it shows. -/
theorem shown_around (outer inner : Policy) {posts : List Post} (h : posts.length ≤ lastPosition) :
    ((outer.around inner).provide posts).shown = outer.select (inner.provide posts).shown := by
  have hinside (policy : Policy) := (policy.isProvided h).isInside
  induction outer with
  | everything => rfl
  | ordered outer order ih => exact ((hinside _).shown_rebuild _).trans (congrArg _ ih)
  | paginated outer page length ih =>
    have hlength := Nat.le_trans ((outer.around inner).isProvided h).length_le h
    refine ((hinside _).shown_page hlength page length).trans ?_
    rw [ih, select]
  | compacted outer ih => exact ((hinside _).shown_rebuild _).trans (congrArg _ ih)
  | selected outer order keys ih => exact ((hinside _).shown_rebuild _).trans (congrArg _ ih)

/-- A policy asks a buffer for no position that it does not have, opens a window that lies within
the buffer it leaves, and shows there what it selects from the posts as a list: sorted by a stable
sort, on the exact page, with a selected key, or merged from left to right. What policies made from
it show does not depend on the posts it hides. Positions are words of 64 bits, and a buffer has no
more posts than it has positions. -/
theorem provide_eq_select (policy : Policy) (posts : List Post)
    (h : posts.length ≤ Window.lastPosition) :
    policy.provide? posts = some (policy.provide posts)
      ∧ ((policy.provide posts).start ≤ (policy.provide posts).stop
        ∧ (policy.provide posts).stop ≤ (policy.provide posts).posts.length)
      ∧ (policy.provide posts).shown = policy.select posts
      ∧ (∀ outer : Policy, ((outer.around policy).provide posts).shown
        = outer.select (policy.provide posts).shown)
      ∧ (∀ (order : PostOrder) (list : List Post), order.IsStableSort list (order.sort list))
      ∧ ∀ list : List Post, compact list = list.foldl mergeLast [] := by
  obtain ⟨hprovide, hinside, -⟩ := policy.isProvided h
  have hshown : (policy.provide posts).shown = policy.select posts := by
    have haround := policy.shown_around everything h
    rw [around_everything] at haround
    exact haround.trans (congrArg policy.select (shown_whole posts))
  exact ⟨hprovide, ⟨hinside.start_le_stop, hinside.stop_le_length⟩, hshown,
    fun outer => outer.shown_around policy h, PostOrder.isStableSort_sort, compact_eq_foldl⟩

/-- Two posts of one guid on the second page, merged there, with posts hidden on both sides; and a
page that begins behind the last position. -/
theorem provide_merged_page :
    let posts : List Post :=
      [{ guid := "a", score := 1 }, { guid := "b", score := 5 },
        { guid := "c", score := 3, tag := "x" }, { guid := "c", score := 3, tag := "y" },
        { guid := "d", score := 4 }]
    let policy : Policy := .compacted (.paginated (.ordered .everything .score) 1 2)
    posts.length ≤ Window.lastPosition
      ∧ policy.provide? posts = some (policy.provide posts)
      ∧ (policy.provide posts).shown = [{ guid := "c", score := 3, tag := "x,y" }]
      ∧ ((Policy.paginated .everything Window.lastPosition 2).around policy |>.provide posts).shown
        = [] := by
  intro posts policy
  have h : posts.length ≤ Window.lastPosition := by decide
  obtain ⟨hprovide, -, hshown, haround, -⟩ := provide_eq_select policy posts h
  have hselect : policy.select posts = [{ guid := "c", score := 3, tag := "x,y" }] := by cbv
  refine ⟨h, hprovide, hshown.trans hselect, (haround _).trans ?_⟩
  have hbehind : 1 ≤ Window.lastPosition * 2 := by decide
  rw [hshown, hselect, select, select, List.drop_eq_nil_of_le hbehind, List.take_nil]

end Policy

end MarkupFeed
