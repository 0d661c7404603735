import MarkupFeed.Post.Order

/-!
# The orders of posts are lawful, and sorting by them is stable

* `instTransCmpCompare`: each order compares any two posts, and consistently.
* `isStableSort_sort`: sorting loses and adds no post, puts them in order, and leaves posts that
  compare equal as they were.
-/

namespace MarkupFeed

open Std

/-! ### Comparing -/

/-- Comparing what a function gives is as lawful as the comparison used. -/
theorem transCmp_on {α β : Type} {cmp : β → β → Ordering} [TransCmp cmp] (f : α → β) :
    TransCmp fun a b => cmp (f a) (f b) where
  eq_swap := OrientedCmp.eq_swap
  isLE_trans := TransCmp.isLE_trans

theorem transCmp_then {α : Type} {first second : α → α → Ordering} (hfirst : TransCmp first)
    (hsecond : TransCmp second) : TransCmp fun a b => (first a b).then (second a b) :=
  inferInstanceAs (TransCmp (compareLex first second))

instance Time.instTransCmpCompare : TransCmp Time.compare :=
  transCmp_then (transCmp_on Time.seconds) (transCmp_on Time.nanos)

namespace PostOrder

instance instTransCmpCompare (order : PostOrder) : TransCmp order.compare := by
  have holdest : TransCmp fun a b : Post => a.time.compare b.time :=
    @transCmp_on Post Time Time.compare _ Post.time
  have hnewest : TransCmp fun a b : Post => b.time.compare a.time :=
    @TransCmp.opposite _ _ holdest
  have htag : TransCmp fun a b : Post => Ord.compare a.tag b.tag :=
    @transCmp_on Post String Ord.compare _ Post.tag
  have hscore : TransCmp fun a b : Post => Ord.compare b.score a.score :=
    @TransCmp.opposite _ _ (@transCmp_on Post UInt32 Ord.compare _ Post.score)
  have hthread : TransCmp fun a b : Post => Ord.compare (Thread.key a.title) (Thread.key b.title) :=
    @transCmp_on Post String Ord.compare _ fun post => Thread.key post.title
  have hthreads := transCmp_then hthread holdest
  show TransCmp fun a b => order.compare a b
  cases order with
  | time => exact hnewest
  | tag => exact transCmp_then htag hnewest
  | score => exact hscore
  | subject =>
    simp only [compare]
    exact hthreads

/-! ### Sorting -/

/-- Whether the first post may stand in front of the second. -/
def le (order : PostOrder) (a b : Post) : Bool := order.compare a b != .gt

theorem le_eq_isLE (order : PostOrder) (a b : Post) : order.le a b = (order.compare a b).isLE := by
  unfold le
  cases order.compare a b <;> rfl

theorem le_trans (order : PostOrder) (a b c : Post) (hab : order.le a b = true)
    (hbc : order.le b c = true) : order.le a c = true := by
  rw [le_eq_isLE] at *
  exact TransCmp.isLE_trans hab hbc

theorem le_total (order : PostOrder) (a b : Post) : (order.le a b || order.le b a) = true := by
  have hswap : order.compare a b = (order.compare b a).swap := OrientedCmp.eq_swap
  rw [le_eq_isLE, le_eq_isLE, hswap]
  cases order.compare b a <;> rfl

/-- The posts `after` are the posts `before` in order. Posts that compare equal to any one post
stand in the order they stood in. -/
structure IsStableSort (order : PostOrder) (before after : List Post) : Prop where
  perm : after.Perm before
  sorted : after.Pairwise fun a b => order.compare a b ≠ .gt
  stable : ∀ post, (after.filter fun other => order.compare post other == .eq)
    = before.filter fun other => order.compare post other == .eq

/-- Posts that compare equal to one post are in order, however they stand. -/
theorem pairwise_le_filter (order : PostOrder) (post : Post) (posts : List Post) :
    (posts.filter fun other => order.compare post other == .eq).Pairwise
      fun a b => order.le a b = true := by
  rw [List.pairwise_iff_forall_sublist]
  intro a b hsub
  have hequal : ∀ other ∈ [a, b], order.compare post other = .eq := by
    intro other hother
    simpa using (List.mem_filter.mp (hsub.subset hother)).2
  have hab : order.compare a b = .eq :=
    TransCmp.eq_trans (OrientedCmp.eq_symm (hequal a (by simp))) (hequal b (by simp))
  rw [le_eq_isLE, hab]
  rfl

theorem isStableSort_sort (order : PostOrder) (posts : List Post) :
    order.IsStableSort posts (order.sort posts) where
  perm := List.mergeSort_perm posts _
  sorted := by
    refine (List.pairwise_mergeSort order.le_trans order.le_total posts).imp ?_
    intro a b hle
    simpa [le] using hle
  stable post := by
    -- the posts that compare equal are found in the sorted ones, and are no fewer there
    have hsub := List.sublist_mergeSort order.le_trans order.le_total
      (order.pairwise_le_filter post posts) List.filter_sublist
    have hkept := hsub.filter fun other => order.compare post other == .eq
    have hperm := (List.mergeSort_perm posts order.le).filter
      fun other => order.compare post other == .eq
    rw [List.filter_filter] at hkept
    simp only [Bool.and_self] at hkept
    exact (hkept.eq_of_length hperm.length_eq.symm).symm

end PostOrder

end MarkupFeed
