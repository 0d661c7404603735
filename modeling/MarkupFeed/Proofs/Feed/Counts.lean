import MarkupFeed.Feed.Pipeline

/-!
# What counting keys comes to

Counts are kept by ascending keys, so that a key is found where it is, and counted once more without
any other (`IsAscending.count_add`). Main statements: `count_addAll_nil` and `total_addAll`.
-/

namespace MarkupFeed.Feed.Counts

/-- The counts stand by ascending keys, and no key stands there twice. -/
def IsAscending (counts : Counts) : Prop := counts.Pairwise fun a b => a.1 < b.1

variable {counts : Counts} {key : String}

theorem count_cons (other : String) (count : Nat) (rest : Counts) (key : String) :
    Counts.count ((other, count) :: rest) key
      = if key = other then count else Counts.count rest key := by
  rw [Counts.count, List.lookup_cons]
  by_cases h : key = other
  · rw [if_pos h, h, beq_self_eq_true]
    rfl
  · rw [if_neg h, beq_false_of_ne h]
    rfl

theorem mem_fst_add {other : String} (h : other ∈ (add key counts).map Prod.fst) :
    other = key ∨ other ∈ counts.map Prod.fst := by
  fun_induction add key counts with
  | case1 => simpa using h
  | case2 first count rest hlt => simpa using h
  | case3 count rest => exact .inr h
  | case4 first count rest hlt hne ih =>
    rw [List.map_cons, List.mem_cons] at h ⊢
    rcases h with rfl | h
    · exact .inr (.inl rfl)
    · exact (ih h).imp_right .inr

theorem lt_of_not_lt_of_ne {first second : String} (hlt : ¬first < second) (hne : first ≠ second) :
    second < first :=
  String.not_le.mp fun hle => hne (String.le_antisymm hle (String.not_lt.mp hlt))

theorem IsAscending.add (h : counts.IsAscending) (key : String) :
    (Counts.add key counts).IsAscending := by
  fun_induction Counts.add key counts with
  | case1 => exact List.pairwise_singleton _ _
  | case2 first count rest hlt =>
    refine List.pairwise_cons.mpr ⟨?_, h⟩
    rw [List.forall_mem_cons]
    exact ⟨hlt, fun other hother =>
      String.lt_trans hlt ((List.pairwise_cons.mp h).1 other hother)⟩
  | case3 count rest => exact List.pairwise_cons.mpr (List.pairwise_cons.mp h)
  | case4 first count rest hlt hne ih =>
    obtain ⟨hfirst, hrest⟩ := List.pairwise_cons.mp h
    refine List.pairwise_cons.mpr ⟨?_, ih hrest⟩
    intro other hother
    rcases mem_fst_add (List.mem_map_of_mem hother) with hkey | hmem
    · exact hkey ▸ lt_of_not_lt_of_ne hlt hne
    · obtain ⟨entry, hentry, heq⟩ := List.mem_map.mp hmem
      exact heq ▸ hfirst entry hentry

/-- A key that is smaller than all others has not been counted. -/
theorem count_eq_zero (h : ∀ other ∈ counts, key < other.1) : counts.count key = 0 := by
  induction counts with
  | nil => rfl
  | cons entry rest ih =>
    obtain ⟨hfirst, hrest⟩ := List.forall_mem_cons.mp h
    rw [count_cons, if_neg (String.ne_of_lt hfirst), ih hrest]

theorem IsAscending.count_add (h : counts.IsAscending) (key other : String) :
    (Counts.add key counts).count other = counts.count other + if other = key then 1 else 0 := by
  fun_induction Counts.add key counts with
  | case1 => exact (count_cons key 1 [] other).trans (Nat.zero_add _).symm
  | case2 first count rest hlt =>
    rw [count_cons]
    split
    · next heq =>
      -- the key stood nowhere, since all keys there are greater
      have hall : ∀ entry ∈ (first, count) :: rest, key < entry.1 :=
        List.forall_mem_cons.mpr ⟨hlt, fun entry hentry =>
          String.lt_trans hlt ((List.pairwise_cons.mp h).1 entry hentry)⟩
      rw [heq, count_eq_zero hall]
    · rfl
  | case3 count rest =>
    rw [count_cons, count_cons]
    split <;> rfl
  | case4 first count rest hlt hne ih =>
    rw [count_cons, count_cons, ih (List.pairwise_cons.mp h).2]
    split
    · next heq => rw [if_neg (heq ▸ Ne.symm hne), Nat.add_zero]
    · rfl

theorem total_add (key : String) (counts : Counts) : total (add key counts) = total counts + 1 := by
  fun_induction add key counts with
  | case1 => rfl
  | case2 first count rest hlt => exact Nat.add_comm 1 _
  | case3 count rest => simp only [total]; omega
  | case4 first count rest hlt hne ih => simp only [total, ih]; omega

/-! ### Counting many keys -/

/-- Counts keys one after the other. -/
def addAll (counts : Counts) (keys : List String) : Counts :=
  keys.foldl (fun counts key => counts.add key) counts

theorem IsAscending.count_addAll (h : counts.IsAscending) (keys : List String) (key : String) :
    (counts.addAll keys).count key = counts.count key + keys.count key := by
  induction keys generalizing counts with
  | nil => rfl
  | cons first rest ih =>
    show ((Counts.add first counts).addAll rest).count key = _
    rw [ih (h.add first), h.count_add, List.count_cons, Nat.add_assoc]
    by_cases heq : key = first
    · simp [heq, Nat.add_comm]
    · simp [heq, Ne.symm heq]

theorem total_addAll (counts : Counts) (keys : List String) :
    (counts.addAll keys).total = counts.total + keys.length := by
  induction keys generalizing counts with
  | nil => rfl
  | cons first rest ih =>
    show ((Counts.add first counts).addAll rest).total = _
    rw [ih, total_add, List.length_cons]
    omega

/-- Each key is counted as often as it comes, from no counts at all. -/
theorem count_addAll_nil (keys : List String) (key : String) :
    (Counts.addAll [] keys).count key = keys.count key := by
  have hascending : IsAscending [] := List.Pairwise.nil
  exact (hascending.count_addAll keys key).trans (Nat.zero_add _)

end MarkupFeed.Feed.Counts
