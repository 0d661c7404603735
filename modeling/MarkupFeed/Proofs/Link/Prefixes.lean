import Mathlib.Data.List.TakeWhile
import MarkupFeed.Link

/-!
# How far `./` and `/` in front of local targets are removed

`Link.bare` is a target without any of them, whatever their order. `Link.localPath` removes every
`./` and then every `/`, so that a `./` behind a `/` stays (`Link.HidesDotSlash`): the two agree
exactly if there is none (`Link.localPath_eq_bare_iff`). Main statement: `Link.lookupPath_bare_iff`.
-/

namespace MarkupFeed.Link

/-! ### Prefixes -/

/-- A text of `./` only. -/
def dotSlashes (count : Nat) : List Char := (List.replicate count ['.', '/']).flatten

/-- Whether a text begins with `./`. -/
def IsDotted (text : List Char) : Prop := ['.', '/'] <+: text

/-- Whether a `/` stands in front of a `./` among the prefixes of a target. -/
def HidesDotSlash (target : List Char) : Prop :=
  ∃ dots slashes rest,
    target = dotSlashes dots ++ (List.replicate (slashes + 1) '/' ++ '.' :: '/' :: rest)

/-- The target without the `./` and `/` it begins with, in whatever order they come. -/
def bare : List Char → List Char
  | '/' :: rest => bare rest
  | '.' :: '/' :: rest => bare rest
  | text => text

variable {target rest : List Char}

theorem isDotted_cons_cons (rest : List Char) : IsDotted ('.' :: '/' :: rest) := ⟨rest, rfl⟩

theorem IsDotted.exists_eq (h : IsDotted target) : ∃ rest, target = '.' :: '/' :: rest := by
  obtain ⟨rest, rfl⟩ := h
  exact ⟨rest, rfl⟩

theorem dotSlashes_succ (count : Nat) (rest : List Char) :
    dotSlashes (count + 1) ++ rest = '.' :: '/' :: (dotSlashes count ++ rest) := by
  rw [dotSlashes, List.replicate_succ, List.flatten_cons]
  rfl

/-! ### Removing the one prefix, then the other -/

theorem dropDotSlashes_of_not_isDotted (h : ¬IsDotted target) :
    dropDotSlashes target = target := by
  unfold dropDotSlashes
  split
  · exact absurd (isDotted_cons_cons _) h
  · rfl

theorem dropDotSlashes_append (count : Nat) (rest : List Char) :
    dropDotSlashes (dotSlashes count ++ rest) = dropDotSlashes rest := by
  induction count with
  | zero => rfl
  | succ count ih => rw [dotSlashes_succ, dropDotSlashes, ih]

theorem exists_dotSlashes (target : List Char) :
    ∃ count, target = dotSlashes count ++ dropDotSlashes target
      ∧ ¬IsDotted (dropDotSlashes target) := by
  fun_induction dropDotSlashes target with
  | case1 rest ih =>
    obtain ⟨count, heq, hdotted⟩ := ih
    exact ⟨count + 1, by rw [dotSlashes_succ, ← heq], hdotted⟩
  | case2 text hother =>
    refine ⟨0, rfl, fun hdotted => ?_⟩
    obtain ⟨rest, rfl⟩ := hdotted.exists_eq
    exact hother rest rfl

theorem exists_slashes (text : List Char) :
    ∃ count, text = List.replicate count '/' ++ text.dropWhile (· == '/') := by
  refine ⟨(text.takeWhile (· == '/')).length, ?_⟩
  have hslashes : text.takeWhile (· == '/')
      = List.replicate (text.takeWhile (· == '/')).length '/' := by
    refine List.eq_replicate_of_mem fun c hc => ?_
    have hslash : (c == '/') = true := List.mem_takeWhile_imp (p := (· == '/')) hc
    exact beq_iff_eq.mp hslash
  rw [← hslashes, List.takeWhile_append_dropWhile]

theorem dropWhile_slashes (count : Nat) (h : rest.head? ≠ some '/') :
    (List.replicate count '/' ++ rest).dropWhile (· == '/') = rest := by
  rw [List.dropWhile_append_of_pos fun c hc => beq_iff_eq.mpr (List.eq_of_mem_replicate hc)]
  cases rest with
  | nil => rfl
  | cons c rest =>
    have hc : ¬(c == '/') = true := fun hc => h (congrArg some (beq_iff_eq.mp hc))
    exact List.dropWhile_cons_of_neg hc

/-! ### Local paths -/

theorem head?_localPath (target : List Char) : (localPath target).head? ≠ some '/' := by
  intro hslash
  have hnot := List.head?_dropWhile_not (· == '/') (dropDotSlashes target)
  rw [← localPath, hslash] at hnot
  exact absurd hnot (by decide)

/-- What a target is made of: every `./` in front, then every `/`, then its path. -/
theorem exists_localPath (target : List Char) :
    ∃ dots slashes, target = dotSlashes dots ++ (List.replicate slashes '/' ++ localPath target)
      ∧ (slashes = 0 → ¬IsDotted (localPath target)) := by
  obtain ⟨dots, htarget, hdotted⟩ := exists_dotSlashes target
  obtain ⟨slashes, hslashes⟩ := exists_slashes (dropDotSlashes target)
  rw [← localPath] at hslashes
  refine ⟨dots, slashes, by rw [← hslashes, ← htarget], ?_⟩
  rintro rfl
  rwa [show dropDotSlashes target = localPath target from hslashes] at hdotted

/-- Nothing else is made of such parts. -/
theorem localPath_append (dots : Nat) {slashes : Nat} (hslash : rest.head? ≠ some '/')
    (hdotted : slashes = 0 → ¬IsDotted rest) :
    localPath (dotSlashes dots ++ (List.replicate slashes '/' ++ rest)) = rest := by
  have hstop : ¬IsDotted (List.replicate slashes '/' ++ rest) := by
    cases slashes with
    | zero => exact hdotted rfl
    | succ slashes =>
      intro h
      obtain ⟨_, heq⟩ := h.exists_eq
      exact absurd (List.cons.inj heq).1 (by decide)
  rw [localPath, dropDotSlashes_append, dropDotSlashes_of_not_isDotted hstop,
    dropWhile_slashes slashes hslash]

theorem isDotted_localPath_iff : IsDotted (localPath target) ↔ HidesDotSlash target := by
  constructor
  · intro h
    obtain ⟨dots, slashes, htarget, hnone⟩ := exists_localPath target
    obtain ⟨rest, hrest⟩ := h.exists_eq
    cases slashes with
    | zero => exact absurd h (hnone rfl)
    | succ slashes => exact ⟨dots, slashes, rest, by rw [← hrest]; exact htarget⟩
  · rintro ⟨dots, slashes, rest, rfl⟩
    have hslash : ('.' :: '/' :: rest).head? ≠ some '/' := fun h =>
      absurd (Option.some.inj h) (by decide)
    rw [localPath_append dots hslash fun h => absurd h (Nat.succ_ne_zero slashes)]
    exact isDotted_cons_cons rest

/-! ### All prefixes -/

theorem bare_append (dots slashes : Nat) (rest : List Char) :
    bare (dotSlashes dots ++ (List.replicate slashes '/' ++ rest)) = bare rest := by
  induction dots with
  | zero =>
    induction slashes with
    | zero => rfl
    | succ slashes ih => exact ih
  | succ dots ih => rw [dotSlashes_succ, bare, ih]

theorem bare_localPath (target : List Char) : bare (localPath target) = bare target := by
  obtain ⟨dots, slashes, htarget, -⟩ := exists_localPath target
  exact (bare_append dots slashes _).symm.trans (congrArg bare htarget.symm)

theorem length_bare_le (target : List Char) : (bare target).length ≤ target.length := by
  fun_induction bare target with
  | case1 rest ih => exact Nat.le_succ_of_le ih
  | case2 rest ih => exact Nat.le_succ_of_le (Nat.le_succ_of_le ih)
  | case3 text => exact Nat.le_refl _

theorem bare_eq_self (hslash : rest.head? ≠ some '/') (hdotted : ¬IsDotted rest) :
    bare rest = rest := by
  unfold bare
  split
  · exact absurd rfl hslash
  · exact absurd (isDotted_cons_cons _) hdotted
  · rfl

/-- All prefixes are removed if and only if none is hidden. -/
theorem localPath_eq_bare_iff : localPath target = bare target ↔ ¬HidesDotSlash target := by
  rw [← isDotted_localPath_iff, ← bare_localPath]
  constructor
  · intro heq hdotted
    obtain ⟨rest, hrest⟩ := hdotted.exists_eq
    rw [hrest, bare] at heq
    have hlength := length_bare_le rest
    rw [← heq] at hlength
    simp only [List.length_cons] at hlength
    omega
  · intro hdotted
    exact (bare_eq_self (head?_localPath target) hdotted).symm

/-! ### The path that is looked up -/

theorem head?_withoutQuery {path : List Char} {c : Char} (h : path.head? ≠ some c) :
    (withoutQuery path).head? ≠ some c := by
  cases path with
  | nil => exact h
  | cons d path =>
    rw [withoutQuery, List.takeWhile_cons]
    split
    · exact h
    · nofun

theorem head?_lookupPath (target : String) : (lookupPath target).toList.head? ≠ some '/' := by
  rw [lookupPath, String.toList_ofList]
  exact head?_withoutQuery (head?_localPath target.toList)

/-- A `./` in front of a path is in front of any fragment or query. -/
theorem isDotted_withoutQuery_iff (path : List Char) :
    IsDotted (withoutQuery path) ↔ IsDotted path := by
  constructor
  · exact fun h => h.trans (List.takeWhile_prefix _)
  · intro h
    obtain ⟨rest, rfl⟩ := h.exists_eq
    exact isDotted_cons_cons (withoutQuery rest)

/-- Targets with the same path are links of one class, with one URL. -/
theorem eq_of_localPath_eq (site : Site) {target other : String}
    (h : localPath other.toList = localPath target.toList)
    (htarget : isOutside target = false ∧ isAnchor target = false)
    (hother : isOutside other = false ∧ isAnchor other = false) :
    classify site other = classify site target ∧ resolve site other = resolve site target := by
  have hlookup : lookupPath other = lookupPath target := by rw [lookupPath, lookupPath, h]
  constructor
  · simp only [classify, htarget.1, htarget.2, hother.1, hother.2, hlookup]
  · simp only [resolve, htarget.1, htarget.2, hother.1, hother.2, h, Bool.or_self,
      Bool.false_eq_true, if_false]

/-- The path that is looked up for a target never begins with a slash, and it begins with `./` if
and only if a `/` stands in front of a `./` among the prefixes of the target. The path of a target
is the target without any of the two prefixes if and only if there is no such place. Hence two local
targets without one that differ in their prefixes only are links of one class, with one URL. -/
theorem lookupPath_bare_iff (target : String) :
    (lookupPath target).toList.head? ≠ some '/'
      ∧ (IsDotted (lookupPath target).toList ↔ HidesDotSlash target.toList)
      ∧ (localPath target.toList = bare target.toList ↔ ¬HidesDotSlash target.toList)
      ∧ ∀ (site : Site) (other : String),
        isOutside target = false ∧ isAnchor target = false →
        isOutside other = false ∧ isAnchor other = false →
        ¬HidesDotSlash target.toList → ¬HidesDotSlash other.toList →
        bare other.toList = bare target.toList →
        classify site other = classify site target
          ∧ resolve site other = resolve site target := by
  refine ⟨head?_lookupPath target, ?_, localPath_eq_bare_iff, ?_⟩
  · rw [lookupPath, String.toList_ofList, isDotted_withoutQuery_iff, isDotted_localPath_iff]
  · intro site other htarget hother hhidden hhidden' hbare
    have hpath : localPath other.toList = localPath target.toList := by
      rw [localPath_eq_bare_iff.mpr hhidden, localPath_eq_bare_iff.mpr hhidden', hbare]
    exact eq_of_localPath_eq site hpath htarget hother

/-- A page that exists counts as missing where its name begins with `/./`. -/
theorem dotSlash_kept_behind_slash :
    let site := Site.ofPaths "/site/" ["notes.txt"]
    (isOutside "/./notes.txt" = false ∧ isAnchor "/./notes.txt" = false)
      ∧ bare "/./notes.txt".toList = bare "notes.txt".toList
      ∧ lookupPath "/./notes.txt" = "./notes.txt"
      ∧ (classify site "/./notes.txt" = .missing ∧ classify site "notes.txt" = .local)
      ∧ resolve site "/./notes.txt" = "/site/./notes.txt"
      ∧ resolve site "notes.txt" = "/site/notes.txt" := by
  refine ⟨⟨?_, ?_⟩, ?_, ?_, ⟨?_, ?_⟩, ?_, ?_⟩ <;> decide +kernel

end MarkupFeed.Link
