import MarkupFeed.Proofs.Post.Groups
import MarkupFeed.Proofs.Text.Blank
import Mathlib.Data.List.SplitBy

/-!
# What is left of posts with one guid in a row

Compacting makes one post of each maximal run of posts with one guid (`forall₂_compact`): its first
post, with the tags of the others added one after the other. In a tag the entries are kept apart by
commas. A tag is added as a whole unless it is one of the entries already, so all entries of the run
are there, and none but those (`eraseDups_entries_foldl`); but some are there twice, unless the
posts with several entries share none with those before them (`nodup_entries_foldl_iff`). Main
statement: `Policy.compacted_merges_runs`.
-/

namespace MarkupFeed

/-! ### The distinct members of a list -/

section Distinct

variable {α : Type} [DecidableEq α]

theorem eraseDups_eq_self {list : List α} (h : list.Nodup) : list.eraseDups = list := by
  induction list with
  | nil => rfl
  | cons x rest ih =>
    obtain ⟨hx, hrest⟩ := List.nodup_cons.mp h
    have hkept : rest.filter (fun y => !y == x) = rest := by
      rw [List.filter_eq_self]
      intro y hy
      simpa using ne_of_mem_of_not_mem hy hx
    rw [List.eraseDups_cons, hkept, ih hrest]

/-- What is there already adds no distinct member. -/
theorem eraseDups_append_of_subset {list more : List α} (h : more ⊆ list) :
    (list ++ more).eraseDups = list.eraseDups := by
  have hnone : more.removeAll list = [] := by
    rw [List.removeAll, List.filter_eq_nil_iff]
    intro x hx
    simpa using h hx
  rw [List.eraseDups_append, hnone, List.eraseDups_nil, List.append_nil]

/-- What is added to a list adds the same distinct members to another with the same ones. -/
theorem eraseDups_append_congr {list other : List α} (h : list.eraseDups = other.eraseDups)
    (more : List α) : (list ++ more).eraseDups = (other ++ more).eraseDups := by
  have hmem (x : α) : x ∈ list ↔ x ∈ other := by
    rw [← List.mem_eraseDups, h, List.mem_eraseDups]
  have hremoved : more.removeAll list = more.removeAll other := by
    simp only [List.removeAll, List.elem_eq_mem, hmem]
  rw [List.eraseDups_append, List.eraseDups_append, h, hremoved]

end Distinct

/-! ### Entries of tags -/

namespace Post

/-- The entries of the tag of a post. An empty tag has none. -/
def entries (post : Post) : List String := if post.tag = "" then [] else post.tags

theorem entries_of_tag_eq {post : Post} (h : post.tag = "") : post.entries = [] := if_pos h

theorem entries_of_tag_ne {post : Post} (h : post.tag ≠ "") : post.entries = post.tags := if_neg h

/-- A tag that is an entry of another is its own only entry. -/
theorem entries_of_tag_mem {post other : Post} (hne : post.tag ≠ "") (h : post.tag ∈ other.tags) :
    post.entries = [post.tag] := by
  rw [tags, List.mem_map] at h
  obtain ⟨part, hpart, htag⟩ := h
  have htext : post.tag.toList = part := by rw [← htag, String.toList_ofList]
  rw [entries_of_tag_ne hne, tags, htext, Text.splitChars_part (Text.not_of_mem_splitChars hpart),
    List.map_singleton, htag]

/-- A tag with a single entry is that entry. -/
theorem entries_of_length_le {post : Post} (hne : post.tag ≠ "") (h : post.entries.length ≤ 1) :
    post.entries = [post.tag] := by
  rw [entries_of_tag_ne hne, tags] at *
  obtain ⟨part, others, hparts⟩ :=
    List.exists_cons_of_ne_nil (Text.splitChars_ne_nil (· == ',') post.tag.toList)
  rw [hparts] at h ⊢
  obtain rfl : others = [] := List.eq_nil_of_length_eq_zero (by simpa using h)
  rw [Text.eq_of_splitChars_eq_singleton hparts, List.map_singleton, String.ofList_toList]

theorem tags_append (first second : String) (post : Post) :
    { post with tag := first ++ "," ++ second : Post }.tags
      = { post with tag := first : Post }.tags ++ { post with tag := second : Post }.tags := by
  simp only [tags, String.toList_append, List.append_assoc]
  rw [← List.map_append]
  exact congrArg _ (Text.splitChars_append (by decide) first.toList second.toList)

end Post

/-- Posts are changed twice in place. -/
theorem Window.IsInside.rebuild_rebuild {window : Window} (h : window.IsInside)
    (change again : List Post → List Post) :
    (window.rebuild change).rebuild again = window.rebuild (again ∘ change) := by
  have hshown := h.shown_rebuild change
  have hlength : (window.posts.take window.start).length = window.start := by
    have hle := h.start_le_stop
    have hstop := h.stop_le_length
    rw [List.length_take]
    omega
  -- what stands around the posts shown is found again around the changed ones
  have hfront :
      (window.rebuild change).posts.take window.start = window.posts.take window.start := by
    rw [Window.rebuild, List.append_assoc, List.take_left' hlength]
  have hback : (window.rebuild change).posts.drop (window.start + (change window.shown).length)
      = window.posts.drop window.stop :=
    List.drop_left' (by rw [List.length_append, hlength])
  rw [Window.rebuild, hshown]
  show Window.mk ((window.rebuild change).posts.take window.start ++ again (change window.shown)
    ++ (window.rebuild change).posts.drop (window.start + (change window.shown).length)) _ _ = _
  rw [hfront, hback]
  rfl

namespace Policy

open Post

/-! ### Adding the tag of a post -/

/-- A tag is added with all its entries, unless it is an entry already. -/
theorem entries_absorb (first second : Post) :
    (absorb first second).entries
      = if second.tag = "" ∨ second.tag ∈ first.tags then first.entries
        else first.entries ++ second.entries := by
  rw [absorb]
  split
  · rfl
  · next h =>
    rw [not_or] at h
    by_cases hfirst : first.tag = ""
    · rw [if_pos hfirst, entries_of_tag_eq hfirst, List.nil_append]
      rfl
    · have hne : first.tag ++ "," ++ second.tag ≠ "" := by simp
      rw [if_neg hfirst, entries_of_tag_ne hne, entries_of_tag_ne hfirst, entries_of_tag_ne h.1]
      exact tags_append first.tag second.tag first

/-- The entries of a tag that is not added are there already. -/
theorem entries_subset_of_tag {first second : Post}
    (h : second.tag = "" ∨ second.tag ∈ first.tags) : second.entries ⊆ first.entries := by
  by_cases hempty : second.tag = ""
  · rw [entries_of_tag_eq hempty]
    exact List.nil_subset _
  · have hmem : second.tag ∈ first.tags := h.resolve_left hempty
    have hfirst : first.tag ≠ "" := by
      intro hfirst
      rw [tags, hfirst] at hmem
      exact hempty (by simpa [Text.splitChars] using hmem)
    rw [entries_of_tag_mem hempty hmem, entries_of_tag_ne hfirst]
    simpa using hmem

theorem eraseDups_entries_absorb (first second : Post) :
    (absorb first second).entries.eraseDups = (first.entries ++ second.entries).eraseDups := by
  rw [entries_absorb]
  split
  · next h => rw [eraseDups_append_of_subset (entries_subset_of_tag h)]
  · rfl

/-- Merged posts have the entries of all of them, in the order in which they come up first. -/
theorem eraseDups_entries_foldl (first : Post) (rest : List Post) :
    (rest.foldl absorb first).entries.eraseDups
      = ((first :: rest).flatMap entries).eraseDups := by
  induction rest generalizing first with
  | nil => rw [List.foldl_nil, List.flatMap_singleton]
  | cons second rest ih =>
    rw [List.foldl_cons, ih, List.flatMap_cons, List.flatMap_cons, List.flatMap_cons,
      ← List.append_assoc]
    exact eraseDups_append_congr (eraseDups_entries_absorb first second) _

theorem mem_entries_foldl {first : Post} {rest : List Post} {entry : String} :
    entry ∈ (rest.foldl absorb first).entries ↔ ∃ post ∈ first :: rest, entry ∈ post.entries := by
  rw [← List.mem_eraseDups, eraseDups_entries_foldl, List.mem_eraseDups, List.mem_flatMap]

/-- A tag of one entry or none brings no entry twice, and a tag of several brings all of them. -/
theorem nodup_entries_absorb_iff {first second : Post} (h : second.entries.Nodup) :
    (absorb first second).entries.Nodup
      ↔ first.entries.Nodup
        ∧ (1 < second.entries.length → ∀ entry ∈ second.entries, entry ∉ first.entries) := by
  rw [entries_absorb]
  split
  · next htag =>
    -- what is not added has one entry at most
    have hlength : second.entries.length ≤ 1 := by
      by_cases hempty : second.tag = ""
      · simp [entries_of_tag_eq hempty]
      · rw [entries_of_tag_mem hempty (htag.resolve_left hempty)]
        exact Nat.le_refl 1
    simp [Nat.not_lt.mpr hlength]
  · next htag =>
    rw [not_or] at htag
    rw [List.nodup_append]
    constructor
    · rintro ⟨hfirst, -, hne⟩
      exact ⟨hfirst, fun _ entry hsecond hentry => hne entry hentry entry hsecond rfl⟩
    · rintro ⟨hfirst, hnone⟩
      refine ⟨hfirst, h, ?_⟩
      rintro entry hentry _ hsecond rfl
      by_cases hlength : 1 < second.entries.length
      · exact hnone hlength entry hsecond hentry
      · -- a single entry is the tag, which is not there yet
        rw [entries_of_length_le htag.1 (Nat.not_lt.mp hlength), List.mem_singleton] at hsecond
        have hne : first.tag ≠ "" := fun hempty => by simp [entries_of_tag_eq hempty] at hentry
        rw [entries_of_tag_ne hne] at hentry
        exact htag.2 (hsecond ▸ hentry)

/-- In a run of posts, none with several entries shares one of them with a post before it. -/
def AddsNew (run : List Post) : Prop :=
  ∀ before post after, run = before ++ post :: after → 1 < post.entries.length →
    ∀ entry ∈ post.entries, ∀ other ∈ before, entry ∉ other.entries

theorem addsNew_concat {run : List Post} {post : Post} :
    AddsNew (run ++ [post])
      ↔ AddsNew run
        ∧ (1 < post.entries.length →
          ∀ entry ∈ post.entries, ∀ other ∈ run, entry ∉ other.entries) := by
  constructor
  · intro h
    refine ⟨?_, h run post [] rfl⟩
    rintro before other after rfl
    exact h before other (after ++ [post]) (by simp)
  · rintro ⟨hrun, hpost⟩ before other after heq
    rcases List.eq_nil_or_concat' after with rfl | ⟨more, last, rfl⟩
    · obtain ⟨rfl, hlast⟩ := List.append_inj' heq rfl
      obtain rfl := List.singleton_inj.mp hlast
      exact hpost
    · rw [← List.cons_append, ← List.append_assoc] at heq
      exact hrun before other more (List.append_inj' heq rfl).1

/-- Merged posts, none of which has an entry twice, have none twice if and only if tags of several
entries add only new ones. -/
theorem nodup_entries_foldl_iff {first : Post} {rest : List Post}
    (h : ∀ post ∈ first :: rest, post.entries.Nodup) :
    (rest.foldl absorb first).entries.Nodup ↔ AddsNew (first :: rest) := by
  -- on the last post, as the others have been merged when it comes
  induction rest using List.reverseRecOn with
  | nil =>
    refine ⟨fun _ => ?_, fun _ => h first List.mem_cons_self⟩
    rintro before post after heq -
    obtain rfl : before = [] := by
      have hlength := congrArg List.length heq
      simp only [List.length_append, List.length_cons, List.length_nil] at hlength
      exact List.eq_nil_of_length_eq_zero (by omega)
    exact fun _ _ _ hother => absurd hother List.not_mem_nil
  | append_singleton rest post ih =>
    rw [← List.cons_append, List.forall_mem_append] at h
    rw [← List.cons_append, addsNew_concat, ← ih h.1, List.foldl_concat,
      nodup_entries_absorb_iff (h.2 post List.mem_cons_self)]
    simp only [mem_entries_foldl, not_exists, not_and]

/-! ### Runs -/

/-- The maximal runs of posts with one guid. -/
def runs (posts : List Post) : List (List Post) := posts.splitBy fun a b => a.guid == b.guid

/-- What is left of a run: its first post, with the tags of the others added. -/
structure IsMergeOf (run : List Post) (post : Post) : Prop where
  exists_tag : ∃ first rest, run = first :: rest ∧ post = { first with tag := post.tag }
  /-- No entry is lost, none is gained, and they come up in the order of the run. -/
  eraseDups_entries : post.entries.eraseDups = (run.flatMap entries).eraseDups
  /-- Where no post has an entry twice, it depends on tags of several entries whether the merged one
  has. -/
  entries_eq_iff : (∀ other ∈ run, other.entries.Nodup) →
    (post.entries = (run.flatMap entries).eraseDups ∧ post.entries.Nodup ↔ AddsNew run)

/-- Merging changes nothing but the tag. -/
theorem foldl_absorb_eq (first : Post) (rest : List Post) :
    rest.foldl absorb first = { first with tag := (rest.foldl absorb first).tag } := by
  induction rest generalizing first with
  | nil => rfl
  | cons second rest ih =>
    have hsecond : absorb first second = { first with tag := (absorb first second).tag } := by
      rw [absorb]
      split <;> rfl
    rw [List.foldl_cons, ih, hsecond]

theorem isMergeOf_foldl (first : Post) (rest : List Post) :
    IsMergeOf (first :: rest) (rest.foldl absorb first) where
  exists_tag := ⟨first, rest, rfl, foldl_absorb_eq first rest⟩
  eraseDups_entries := eraseDups_entries_foldl first rest
  entries_eq_iff h := by
    rw [← nodup_entries_foldl_iff h, ← eraseDups_entries_foldl]
    exact ⟨fun h => h.2, fun h => ⟨(eraseDups_eq_self h).symm, h⟩⟩

theorem guid_foldl (first : Post) (rest : List Post) :
    (rest.foldl absorb first).guid = first.guid := by
  rw [foldl_absorb_eq]

/-- A run goes on as long as the guid does. -/
theorem runs_append {first : Post} {rest posts : List Post}
    (hguid : ∀ post ∈ first :: rest, post.guid = first.guid)
    (hnext : ∀ post ∈ posts.head?, first.guid ≠ post.guid) :
    runs (first :: rest ++ posts) = (first :: rest) :: runs posts := by
  have hchain : (first :: rest).IsChain fun a b => (a.guid == b.guid) = true := by
    refine List.Pairwise.isChain (List.pairwise_iff_forall_sublist.mpr ?_)
    intro a b hsub
    have ha := hguid a (hsub.subset (by simp))
    have hb := hguid b (hsub.subset (by simp))
    simp [ha, hb]
  have hend : ∀ a ∈ (first :: rest).getLast?, ∀ b ∈ posts.head?, (a.guid == b.guid) = false := by
    intro a ha b hb
    rw [hguid a (List.mem_of_mem_getLast? ha)]
    simpa using hnext b hb
  rw [runs, List.splitBy_append hend, List.splitBy_of_isChain (List.cons_ne_nil _ _) hchain]
  rfl

/-- A run goes on with the posts of its guid, and ends with the first of another. -/
theorem forall₂_compactAfter {first : Post} {rest : List Post}
    (hguid : ∀ post ∈ first :: rest, post.guid = first.guid) (posts : List Post) :
    List.Forall₂ IsMergeOf (runs (first :: rest ++ posts))
      (compactAfter (rest.foldl absorb first) posts) := by
  induction posts generalizing first rest with
  | nil =>
    rw [runs_append hguid (fun _ h => absurd h (by simp))]
    exact .cons (isMergeOf_foldl first rest) .nil
  | cons post posts ih =>
    rw [compactAfter, guid_foldl]
    split
    · next heq =>
      have hmore : ∀ other ∈ first :: (rest ++ [post]), other.guid = first.guid :=
        List.forall_mem_append.mpr ⟨hguid, by simpa using heq.symm⟩
      have hrest := ih hmore
      rw [List.foldl_concat, List.cons_append, List.append_assoc] at hrest
      exact hrest
    · next hne =>
      have halone : ∀ other ∈ [post], other.guid = post.guid := by simp
      rw [runs_append hguid (by simpa using hne)]
      exact .cons (isMergeOf_foldl first rest) (ih halone)

theorem forall₂_compact (posts : List Post) :
    List.Forall₂ IsMergeOf (runs posts) (compact posts) := by
  cases posts with
  | nil => exact .nil
  | cons first rest =>
    have halone : ∀ other ∈ [first], other.guid = first.guid := by simp
    exact forall₂_compactAfter halone rest

/-! ### Compacting again -/

theorem compactAfter_eq_self {last : Post} {posts : List Post}
    (h : (last :: posts).IsChain fun a b => a.guid ≠ b.guid) :
    compactAfter last posts = last :: posts := by
  induction posts generalizing last with
  | nil => rfl
  | cons post rest ih =>
    obtain ⟨hne, hrest⟩ := List.isChain_cons_cons.mp h
    rw [compactAfter, if_neg hne, ih hrest]

/-- Compacted posts begin with the guid that they began with, and no two in a row have one guid. -/
theorem isChain_compactAfter (last : Post) (posts : List Post) :
    (∃ post rest, compactAfter last posts = post :: rest ∧ post.guid = last.guid)
      ∧ (compactAfter last posts).IsChain fun a b => a.guid ≠ b.guid := by
  fun_induction compactAfter last posts with
  | case1 last => exact ⟨⟨last, [], rfl, rfl⟩, List.isChain_singleton last⟩
  | case2 last post rest heq ih =>
    rw [guid_absorb] at ih
    exact ih
  | case3 last post rest hne ih =>
    obtain ⟨⟨first, more, hfirst, hguid⟩, hchain⟩ := ih
    refine ⟨⟨last, _, rfl, rfl⟩, ?_⟩
    rw [hfirst] at hchain ⊢
    exact List.isChain_cons_cons.mpr ⟨hguid ▸ hne, hchain⟩

theorem compact_compact (posts : List Post) : compact (compact posts) = compact posts := by
  cases posts with
  | nil => rfl
  | cons first rest =>
    obtain ⟨⟨post, more, heq, -⟩, hchain⟩ := isChain_compactAfter first rest
    rw [heq] at hchain
    show compact (compactAfter first rest) = compactAfter first rest
    rw [heq]
    exact compactAfter_eq_self hchain

/-- Compacting makes one post of each maximal run of posts with one guid among those that a policy
shows, in their order: the first post of the run, with another tag at most. The distinct entries of
that tag are those of the run, in the order in which they come up first. If no post of the run has
an entry twice, then neither has the merged one, and so its entries are exactly those, if and only
if no post with several entries shares one of them with a post before it in the run. Compacting
once more changes nothing, neither the posts shown nor those hidden. -/
theorem compacted_merges_runs (policy : Policy) (posts : List Post) :
    let shown := (policy.provide posts).shown
    let compacted := (policy.compacted.provide posts).shown
    List.Forall₂ IsMergeOf (runs shown) compacted
      ∧ policy.compacted.compacted.provide posts = policy.compacted.provide posts := by
  intro shown compacted
  have hinside := policy.isInside_provide posts
  have hcompacted : compacted = compact shown := hinside.shown_rebuild _
  constructor
  · rw [hcompacted]
    exact forall₂_compact shown
  · show ((policy.provide posts).rebuild compact).rebuild compact = _
    rw [hinside.rebuild_rebuild, Window.rebuild, Function.comp_apply, compact_compact]
    rfl

/-- A post with the entries `a` and `b` behind one with the entry `a`: the merged post has `a`
twice. -/
theorem entry_repeated :
    let posts : List Post := [{ guid := "g", tag := "a" }, { guid := "g", tag := "a,b" }]
    let compacted := ((Policy.compacted .everything).provide posts).shown
    posts.map entries = [["a"], ["a", "b"]]
      ∧ compacted = [{ guid := "g", tag := "a,a,b" }]
      ∧ compacted.map entries = [["a", "a", "b"]] := by
  decide

end Policy

end MarkupFeed
