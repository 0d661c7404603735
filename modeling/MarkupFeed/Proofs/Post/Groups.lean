import MarkupFeed.Proofs.Post.Policy
import MarkupFeed.Proofs.Time.Months

/-!
# In every order, the posts of one key stand together

An order compares posts by their keys first, or by something that the key follows: scores by their
written form, times by their month. So a post between two posts of one key has that key
(`key_eq_of_between`), and a list with this property falls into its groups (`isGrouped_of_between`).
Main statement: `PostOrder.lawful_and_grouped`.
-/

namespace MarkupFeed

/-! ### Groups in a list -/

/-- The members of a list with one key stand together, whichever key it is. -/
def IsGrouped {α κ : Type} (key : α → κ) (list : List α) : Prop :=
  ∀ k, ∃ before group after, list = before ++ group ++ after
    ∧ (∀ x ∈ group, key x = k) ∧ ∀ x ∈ before ++ after, key x ≠ k

/-- A list is grouped if what stands between two members of one key has the key. -/
theorem isGrouped_of_between {α κ : Type} [DecidableEq κ] {key : α → κ} {le : α → α → Prop}
    (hbetween : ∀ {a b c}, le a b → le b c → key a = key c → key b = key c) {list : List α}
    (hsorted : list.Pairwise le) : IsGrouped key list := by
  intro k
  induction list with
  | nil => exact ⟨[], [], [], rfl, List.forall_mem_nil _, List.forall_mem_nil _⟩
  | cons x rest ih =>
    obtain ⟨hfirst, hrest⟩ := List.pairwise_cons.mp hsorted
    obtain ⟨before, group, after, rfl, hgroup, hothers⟩ := ih hrest
    rw [List.forall_mem_append] at hothers
    by_cases hx : key x = k
    · -- the group goes on from the first member, or ends with it
      cases group with
      | nil =>
        refine ⟨[], [x], before ++ after, by simp, by simpa using hx, ?_⟩
        rw [List.nil_append]
        exact List.forall_mem_append.mpr hothers
      | cons y group =>
        cases before with
        | nil =>
          refine ⟨[], x :: y :: group, after, rfl, ?_, hothers.2⟩
          exact List.forall_mem_cons.mpr ⟨hx, hgroup⟩
        | cons z before =>
          have hy : key y = k := hgroup y List.mem_cons_self
          have hzy : le z y := by
            rw [List.pairwise_append, List.pairwise_append] at hrest
            exact hrest.1.2.2 z List.mem_cons_self y List.mem_cons_self
          have hz := hbetween (hfirst z List.mem_cons_self) hzy (hx.trans hy.symm)
          exact absurd (hz.trans hy) (hothers.1 z List.mem_cons_self)
    · refine ⟨x :: before, group, after, rfl, hgroup, ?_⟩
      exact List.forall_mem_cons.mpr ⟨hx, List.forall_mem_append.mpr hothers⟩

/-- The window a policy opens lies within the buffer it leaves, however long that is. -/
theorem Policy.isInside_provide (policy : Policy) (posts : List Post) :
    (policy.provide posts).IsInside := by
  induction policy with
  | everything => exact Window.isInside_whole posts
  | ordered inner order ih => exact ih.rebuild _
  | paginated inner page length ih => exact ih.page page length
  | compacted inner ih => exact ih.rebuild _
  | selected inner order keys ih => exact ih.rebuild _

namespace PostOrder

open Std

/-! ### Keys and orders -/

/-- What is compared first is not greater. -/
theorem isLE_of_then {first second : Ordering} (h : first.then second ≠ .gt) : first ≠ .gt := by
  rintro rfl
  exact h rfl

/-- Between equals there are only equals. -/
theorem eq_of_between {α : Type} {cmp : α → α → Ordering} [TransCmp cmp] [LawfulEqCmp cmp]
    {a b c : α} (hab : cmp a b ≠ .gt) (hbc : cmp b c ≠ .gt) (hac : a = c) : b = c := by
  subst hac
  cases h : cmp a b with
  | lt => exact absurd (OrientedCmp.gt_of_lt h) hbc
  | eq => exact LawfulEqCmp.eq_of_compare (OrientedCmp.eq_symm h)
  | gt => exact absurd h hab

/-- A post between two posts of one key has the key. -/
theorem key_eq_of_between (order : PostOrder) {a b c : Post} (hab : order.compare a b ≠ .gt)
    (hbc : order.compare b c ≠ .gt) (hac : order.key a = order.key c) :
    order.key b = order.key c := by
  cases order with
  | time =>
    simp only [compare, key] at *
    exact (Time.monthText_eq_of_between hbc hab hac.symm).trans hac
  | tag =>
    simp only [compare, key] at *
    exact eq_of_between (isLE_of_then hab) (isLE_of_then hbc) hac
  | score =>
    simp only [compare, key] at *
    -- a score is read back from its written form
    have hscores : c.score = a.score := by
      have hread := congrArg Text.word32? hac
      rw [Text.word32?_toString, Text.word32?_toString] at hread
      exact (Option.some.inj hread).symm
    rw [eq_of_between hbc hab hscores, ← hscores]
  | subject =>
    simp only [compare, key] at *
    exact eq_of_between (isLE_of_then hab) (isLE_of_then hbc) hac

theorem isGrouped_sort (order : PostOrder) (posts : List Post) :
    IsGrouped order.key (order.sort posts) := by
  have hsorted := (order.isStableSort_sort posts).sorted
  refine isGrouped_of_between ?_ hsorted
  intro a b c hab hbc hac
  exact order.key_eq_of_between hab hbc hac

/-- Each order compares any two posts, consistently. Put on a policy, it shows the posts that the
policy shows, all of the buffer if that is `everything`: each as often as before, in order, those
that compare equal as they stood, and those of one key together. -/
theorem lawful_and_grouped (order : PostOrder) :
    (∀ a, order.compare a a = .eq)
      ∧ (∀ a b, order.compare a b = (order.compare b a).swap)
      ∧ (∀ a b c, order.compare a b ≠ .gt → order.compare b c ≠ .gt → order.compare a c ≠ .gt)
      ∧ (∀ (policy : Policy) (posts : List Post),
        let before := (policy.provide posts).shown
        let after := ((policy.ordered order).provide posts).shown
        order.IsStableSort before after ∧ IsGrouped order.key after)
      ∧ ∀ posts, (Policy.everything.provide posts).shown = posts := by
  refine ⟨fun a => ReflCmp.compare_self, fun a b => OrientedCmp.eq_swap, ?_, ?_,
    Window.shown_whole⟩
  · intro a b c
    simp only [ne_eq, ← Ordering.isLE_iff_ne_gt]
    exact TransCmp.isLE_trans
  · intro policy posts before after
    have hafter : after = order.sort before := (policy.isInside_provide posts).shown_rebuild _
    rw [hafter]
    exact ⟨order.isStableSort_sort before, order.isGrouped_sort before⟩

end PostOrder

end MarkupFeed
