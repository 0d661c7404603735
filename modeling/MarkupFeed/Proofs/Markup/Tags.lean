import MarkupFeed.Proofs.Markup.Entity

/-!
# The tags of an output, from each `<` to the next `>`

An output that ends outside of its tags (`Tags.HasTags`) can be put together with others, and the
tags of the whole are those of the parts. Escaped text has none, so that only what is written
around a text has any.
-/

namespace MarkupFeed.Tags

/-! ### Tags -/

/-- Goes through an output, outside of tags or behind the first octets of one: the tags that end in
it, and the octets of the one that does not. -/
def scan : Option Bytes → Bytes → List Bytes × Option Bytes
  | tag, [] => ([], tag)
  | none, b :: rest => if b = '<'.toUInt8 then scan (some [b]) rest else scan none rest
  | some tag, b :: rest =>
    if b = '>'.toUInt8 then ((tag ++ [b]) :: (scan none rest).1, (scan none rest).2)
    else scan (some (tag ++ [b])) rest

/-- The tags of an output, in order. The last one may lack its end. -/
def tags (output : Bytes) : List Bytes := (scan none output).1 ++ (scan none output).2.toList

example : tags (Bytes.ascii "<p>a > b &lt;</p><") = ["<p>", "</p>", "<"].map Bytes.ascii := by
  decide

theorem scan_append (tag : Option Bytes) (a b : Bytes) :
    scan tag (a ++ b)
      = ((scan tag a).1 ++ (scan (scan tag a).2 b).1, (scan (scan tag a).2 b).2) := by
  fun_induction scan tag a with
  | case1 tag => rfl
  | case2 rest ih => rw [List.cons_append, scan, if_pos rfl, ih]
  | case3 b rest hless ih => rw [List.cons_append, scan, if_neg hless, ih]
  | case4 tag rest ih =>
    rw [List.cons_append, scan, if_pos rfl, ih]
    rfl
  | case5 tag b rest hgreater ih => rw [List.cons_append, scan, if_neg hgreater, ih]

/-- A tag ends with its `>`. -/
theorem scan_some {rest : Bytes} (h : '>'.toUInt8 ∉ rest) (tag : Bytes) :
    scan (some tag) (rest ++ ['>'.toUInt8]) = ([tag ++ rest ++ ['>'.toUInt8]], none) := by
  induction rest generalizing tag with
  | nil => rw [List.append_nil]; rfl
  | cons b rest ih =>
    rw [List.mem_cons, not_or] at h
    rw [List.cons_append, scan, if_neg (Ne.symm h.1), ih h.2, List.append_assoc tag]
    rfl

/-- A text without a `<` has no tag. -/
theorem scan_of_not_mem {text : Bytes} (h : '<'.toUInt8 ∉ text) : scan none text = ([], none) := by
  induction text with
  | nil => rfl
  | cons b rest ih =>
    rw [List.mem_cons, not_or] at h
    rw [scan, if_neg (Ne.symm h.1), ih h.2]

/-! ### Outputs and their tags -/

/-- The output has the given tags, and ends outside of them. -/
def HasTags (output : Bytes) (found : List Bytes) : Prop := scan none output = (found, none)

instance (output : Bytes) (found : List Bytes) : Decidable (HasTags output found) := by
  unfold HasTags; infer_instance

theorem HasTags.tags_eq {output : Bytes} {found : List Bytes} (h : HasTags output found) :
    tags output = found := by
  rw [tags, h]
  exact List.append_nil found

/-- Outputs that end outside of their tags do not change those of each other. -/
theorem HasTags.append {output more : Bytes} {found others : List Bytes}
    (h : HasTags output found) (hmore : HasTags more others) :
    HasTags (output ++ more) (found ++ others) := by
  unfold HasTags at *
  rw [scan_append, h, hmore]

theorem hasTags_of_not_mem {text : Bytes} (h : '<'.toUInt8 ∉ text) : HasTags text [] :=
  scan_of_not_mem h

/-- Escaped text has no tags, whatever it says. -/
theorem hasTags_escapeText (text : String) : HasTags (Entity.escapeText text) [] :=
  hasTags_of_not_mem (Entity.less_not_mem_escape _)

/-- What is put together from parts with the same tags has them as often. -/
theorem hasTags_flatMap {α : Type} {f : α → Bytes} {found : List Bytes}
    (h : ∀ x, HasTags (f x) found) (list : List α) :
    HasTags (list.flatMap f) (List.replicate list.length found).flatten := by
  induction list with
  | nil => exact rfl
  | cons x rest ih => exact (h x).append ih

end MarkupFeed.Tags
