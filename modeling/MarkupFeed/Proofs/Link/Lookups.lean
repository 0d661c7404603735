import MarkupFeed.FileTree
import MarkupFeed.Markup.Decorator
import MarkupFeed.Proofs.Link.Prefixes

/-!
# Looking links up in a directory stays inside the directory

`FilePath.place` follows the parts of a path from a directory. A path that is joined to a directory
leads from there through its components, none of which leads upwards (`FilePath.place_join`), so
that what is asked of the files around is about the directory and what is below it
(`Site.isInside_of_question?`). `FileTree.entry?_of_walk` says that a file tree finds its entries
where paths lead to. Main statement: `Link.lookups_inside`, which follows this up to what is written
for a text.
-/

namespace MarkupFeed

namespace FilePath

/-! ### Parts of a path -/

theorem splitAt_ne_nil (separator : Char) (text : List Char) : splitAt separator text ≠ [] := by
  fun_cases splitAt separator text <;> simp

theorem splitAt_append (separator : Char) (front back : List Char) :
    splitAt separator (front ++ separator :: back)
      = splitAt separator front ++ splitAt separator back := by
  induction front with
  | nil => simp [splitAt]
  | cons c front ih =>
    rw [List.cons_append, splitAt, splitAt, ih]
    split
    · rfl
    · cases hfront : splitAt separator front with
      | nil => exact absurd hfront (splitAt_ne_nil separator front)
      | cons part parts => rfl

theorem parts_append (front back : String) :
    parts (front ++ "/" ++ back) = parts front ++ parts back := by
  have hchars : (front ++ "/" ++ back).toList = front.toList ++ '/' :: back.toList := by simp
  rw [parts, hchars, splitAt_append, List.map_append]
  rfl

/-- The parts of a path below a directory: those of the directory and those of the path, but for
an empty one between two slashes. -/
theorem exists_parts_join (directory : String) {path : String} (h : isAbsolute path = false) :
    ∃ front, parts (join directory path) = front ++ parts path
      ∧ (parts directory = front ∨ parts directory = front ++ [""]) := by
  rw [join]
  split
  · next hempty =>
    obtain rfl : directory = "" := hempty.resolve_right (by simp [h])
    exact ⟨[], rfl, .inr (by decide)⟩
  · split
    · next hslash =>
      obtain ⟨front, hfront⟩ := List.getLast?_eq_some_iff.mp hslash
      have hdirectory : directory = String.ofList front ++ "/" ++ "" := by
        rw [← String.toList_inj]
        simp [hfront]
      refine ⟨parts (String.ofList front), ?_, .inr ?_⟩
      · rw [show directory ++ path = String.ofList front ++ "/" ++ path by
          rw [hdirectory, String.append_empty], parts_append]
      · rw [hdirectory, parts_append]
        rfl
    · exact ⟨parts directory, parts_append directory path, .inl rfl⟩

/-! ### Places -/

/-- The place a part of a path leads to from another place. -/
def follow (place : List String) (part : String) : List String :=
  if part = "" ∨ part = "." then place
  else if part = ".." then place.dropLast
  else place ++ [part]

/-- The place a path leads to from a directory, by its components; no part of it is taken for a
link to another place. -/
def place (start : List String) (path : String) : List String :=
  (parts path).foldl follow (if isAbsolute path then [] else start)

/-- Whether a path leads to a directory or to a place below it, wherever the two are relative to. -/
def IsInside (directory path : String) : Prop :=
  ∀ start, place start directory <+: place start path

/-- Parts that do not lead upwards are the components of the way down. -/
theorem foldl_follow {parts : List String} (h : ".." ∉ parts) (start : List String) :
    parts.foldl follow start = start ++ parts.filter fun part => part ≠ "" ∧ part ≠ "." := by
  induction parts generalizing start with
  | nil => exact (List.append_nil start).symm
  | cons part parts ih =>
    rw [List.mem_cons, not_or] at h
    rw [List.foldl_cons, ih h.2]
    by_cases hpart : part = "" ∨ part = "."
    · have hfilter : ¬(part ≠ "" ∧ part ≠ ".") := fun hne => hpart.elim hne.1 hne.2
      rw [follow, if_pos hpart, List.filter_cons_of_neg (by simpa using hfilter)]
    · have hfilter : part ≠ "" ∧ part ≠ "." := not_or.mp hpart
      rw [follow, if_neg hpart, if_neg (Ne.symm h.1),
        List.filter_cons_of_pos (by simpa using hfilter), List.append_assoc]
      rfl

theorem isAbsolute_join {directory path : String} (h : isAbsolute path = false) :
    isAbsolute (join directory path) = isAbsolute directory := by
  rw [join]
  split
  · next hempty =>
    obtain rfl : directory = "" := hempty.resolve_right (by simp [h])
    rw [h]
    rfl
  · next hempty =>
    obtain ⟨c, rest, hchars⟩ : ∃ c rest, directory.toList = c :: rest :=
      List.exists_cons_of_ne_nil fun hnil => hempty (.inl (String.toList_eq_nil_iff.mp hnil))
    split <;> simp [isAbsolute, hchars]

/-- From a directory, a relative path that never leads upwards goes down its components. -/
theorem place_join {directory path : String} (h : isAbsolute path = false)
    (hparts : ".." ∉ parts path) (start : List String) :
    place start (join directory path) = place start directory ++ components path := by
  obtain ⟨front, hjoin, hdirectory⟩ := exists_parts_join directory h
  have hfront : front.foldl follow (if isAbsolute directory then [] else start)
      = place start directory := by
    rcases hdirectory with hdirectory | hdirectory
    · rw [place, hdirectory]
    · rw [place, hdirectory, List.foldl_append]
      rfl
  rw [place, isAbsolute_join h, hjoin, List.foldl_append, hfront, foldl_follow hparts]
  rfl

end FilePath

namespace FileTree

/-- What is found by walking parts of a path is the entry of the place they lead to. -/
theorem entry?_of_walk {tree : FileTree} {start parts : List String} {entry : Entry}
    (h : tree.walk start parts = .ok entry) :
    tree.entry? (parts.foldl FilePath.follow start) = some entry := by
  induction parts generalizing start with
  | nil =>
    rw [walk] at h
    rw [List.foldl_nil]
    cases hentry : tree.entry? start with
    | none => simp [hentry] at h
    | some found =>
      rw [hentry] at h
      exact congrArg some (Except.ok.inj h)
  | cons part parts ih =>
    rw [walk] at h
    split at h
    · cases h
    · cases h
    · exact ih h

theorem exists_entry?_of_exist {tree : FileTree} {path : String} (h : tree.exist path = true) :
    ∃ entry, tree.entry? (FilePath.place [] path) = some entry := by
  rw [exist, lookup] at h
  split at h
  · cases h
  · next hpath =>
    have hrelative : FilePath.isAbsolute path = false :=
      Bool.not_eq_true _ ▸ fun habsolute => hpath (.inr habsolute)
    cases hwalk : tree.walk [] (FilePath.parts path) with
    | error error => simp [hwalk, Except.isOk, Except.toBool] at h
    | ok entry =>
      refine ⟨entry, ?_⟩
      rw [FilePath.place, hrelative]
      exact entry?_of_walk hwalk

end FileTree

/-! ### Questions -/

theorem Site.eq_join_of_question? {root path asked : String}
    (h : question? root path = some asked) :
    asked = FilePath.join root path ∧ ".." ∉ FilePath.parts path := by
  unfold question? at h
  split at h
  · cases h
  · next hparent =>
    refine ⟨(Option.some.inj h).symm, fun hmem => hparent ?_⟩
    exact List.contains_iff_mem.mpr hmem

/-- What is asked about a path below a root directory is inside it. -/
theorem Site.isInside_of_question? {root path asked : String}
    (h : FilePath.isAbsolute path = false) (hasked : question? root path = some asked) :
    FilePath.IsInside root asked := by
  obtain ⟨rfl, hparts⟩ := eq_join_of_question? hasked
  intro start
  rw [FilePath.place_join h hparts]
  exact List.prefix_append _ _

/-- A directory is the same site under two accounts of what exists that agree inside of it. -/
theorem Site.hasPath_ofDirectory_congr {top root path : String} {exist exist' : String → Bool}
    (h : ∀ asked, FilePath.IsInside root asked → exist asked = exist' asked)
    (hpath : FilePath.isAbsolute path = false) :
    (ofDirectory top root exist).hasPath path = (ofDirectory top root exist').hasPath path := by
  show (question? root path).any exist = (question? root path).any exist'
  cases hasked : question? root path with
  | none => rfl
  | some asked => exact h asked (isInside_of_question? hpath hasked)

namespace Link

/-! ### Classes -/

theorem isAbsolute_lookupPath (target : String) :
    FilePath.isAbsolute (lookupPath target) = false :=
  beq_eq_false_iff_ne.mpr (head?_lookupPath target)

theorem not_mem_lookupPath (target : String) :
    '#' ∉ (lookupPath target).toList ∧ '?' ∉ (lookupPath target).toList := by
  have hplain : ∀ c ∈ (lookupPath target).toList, c ≠ '#' ∧ c ≠ '?' := by
    intro c hc
    rw [lookupPath, String.toList_ofList, withoutQuery] at hc
    simpa using List.mem_takeWhile_imp hc
  exact ⟨fun hmem => (hplain _ hmem).1 rfl, fun hmem => (hplain _ hmem).2 rfl⟩

/-- Of what exists, the class of a target depends on its path only. -/
theorem classify_congr {site site' : Site} {target : String}
    (h : site.hasPath (lookupPath target) = site'.hasPath (lookupPath target)) :
    classify site target = classify site' target := by
  rw [classify, classify, h]

end Link

/-- Markup depends on what exists through the classes of targets. -/
theorem Highlight.ofFormat_congr {site site' : Site}
    (h : ∀ target, Link.classify site target = Link.classify site' target)
    (htop : site.top = site'.top) (format : Format) (options : Options) :
    ofFormat format options site = ofFormat format options site' := by
  have hresolve : Link.resolve site = Link.resolve site' := by
    funext target
    rw [Link.resolve, Link.resolve, htop]
  have hclassify : Link.classify site = Link.classify site' := funext h
  have hanchors : Anchors.renderer site = Anchors.renderer site' := by
    unfold Anchors.renderer Anchors.word Anchors.anchor
    rw [hresolve, hclassify]
  have htargets : Targets.renderer site = Targets.renderer site' := by
    unfold Targets.renderer Targets.complete
    rw [hclassify]
  cases format with
  | prose => rw [ofFormat, ofFormat, hanchors]
  | xml => rw [ofFormat, ofFormat, htargets]
  | _ => rfl

/-- The path that is looked up for a target is relative, and has no fragment or query. A class
depends on nothing else of what exists. In a directory, what is asked for the path is about a
relative path without `..` below the directory: it leads from there down its components, and that is
where a file tree has what it finds. So what exists outside of the directory has no part in what is
written for a text. -/
theorem Link.lookups_inside (top root target : String) :
    FilePath.isAbsolute (lookupPath target) = false
      ∧ '#' ∉ (lookupPath target).toList ∧ '?' ∉ (lookupPath target).toList
      ∧ (∀ site site' : Site,
        site.hasPath (lookupPath target) = site'.hasPath (lookupPath target) →
        classify site target = classify site' target)
      ∧ (∀ asked, Site.question? root (lookupPath target) = some asked →
        asked = FilePath.join root (lookupPath target)
          ∧ ".." ∉ FilePath.parts (lookupPath target)
          ∧ (∀ start, FilePath.place start asked
            = FilePath.place start root ++ FilePath.components (lookupPath target))
          ∧ ∀ tree : FileTree, tree.exist asked = true → ∃ entry,
            tree.entry? (FilePath.place [] root ++ FilePath.components (lookupPath target))
              = some entry)
      ∧ ∀ exist exist' : String → Bool,
        (∀ asked, FilePath.IsInside root asked → exist asked = exist' asked) →
        ∀ (format : Format) (options : Highlight.Options) (parts : List Bytes),
          ((Highlight.ofFormat format options (.ofDirectory top root exist)).fresh.passAll parts).2
            = ((Highlight.ofFormat format options
                (.ofDirectory top root exist')).fresh.passAll parts).2 := by
  have hrelative : FilePath.isAbsolute (lookupPath target) = false := isAbsolute_lookupPath target
  obtain ⟨hfragment, hquery⟩ := not_mem_lookupPath target
  refine ⟨hrelative, hfragment, hquery, fun _ _ => classify_congr, ?_, ?_⟩
  · intro asked hasked
    obtain ⟨hjoin, hparts⟩ := Site.eq_join_of_question? hasked
    have hplace : ∀ start, FilePath.place start asked
        = FilePath.place start root ++ FilePath.components (lookupPath target) := by
      intro start
      rw [hjoin, FilePath.place_join hrelative hparts]
    refine ⟨hjoin, hparts, hplace, fun tree hexist => ?_⟩
    rw [← hplace]
    exact FileTree.exists_entry?_of_exist hexist
  · intro exist exist' hagree format options parts
    have hclassify : ∀ name, classify (.ofDirectory top root exist) name
        = classify (.ofDirectory top root exist') name := fun name =>
      classify_congr (Site.hasPath_ofDirectory_congr hagree (isAbsolute_lookupPath name))
    rw [Highlight.ofFormat_congr hclassify rfl]

end MarkupFeed
