import MarkupFeed.Proofs.Text.Items

/-!
# Text with spans, read as brackets and octets

`Spans.items` finds `<span class="…">` and `</span>` in a text and takes all else octet by octet.
It reads back what was written (`items_written`) as long as no octet is a `<` that could be taken
for the beginning of a bracket, and no title has a quote in it.
-/

namespace MarkupFeed.Spans

/-- A bracket of a span, or an octet apart from the brackets. -/
inductive Item where
  | opening (title : Bytes)
  | closing
  | octet (b : UInt8)
  deriving DecidableEq, Repr

/-- What an opening bracket begins with, up to its title. -/
def openingHead : Bytes := Bytes.ascii "<span class=\""

namespace Item

/-- How an item is written. -/
def written : Item → Bytes
  | opening title => openingHead ++ title ++ Bytes.ascii "\">"
  | closing => Bytes.ascii "</span>"
  | octet b => [b]

/-- The octet that an item is. -/
def octet? : Item → Option UInt8
  | octet b => some b
  | _ => none

/-- Whether the item is found again where it is written. -/
def IsReadable : Item → Prop
  | opening title => '"'.toUInt8 ∉ title
  | closing => True
  | octet b => b ≠ '<'.toUInt8

end Item

/-- The bracket at the front of a text, and its length. The title of an opening bracket goes up to
the next quote. -/
def bracket? (text : Bytes) : Option (Item × Nat) :=
  let title := (text.drop openingHead.length).takeWhile (· != '"'.toUInt8)
  ([Item.closing, .opening title].find? fun item => item.written.isPrefixOf text).map
    fun item => (item, item.written.length)

/-- The brackets and octets of a text. -/
def items (text : Bytes) : List Item := Bytes.items bracket? .octet text

/-- The octets apart from the brackets. -/
def bare (items : List Item) : Bytes := items.filterMap Item.octet?

/-- The texts between an opening bracket and the next closing one, in their order. -/
def contents : List Item → List Bytes
  | [] => []
  | .opening _ :: rest => bare (rest.takeWhile (· ≠ .closing)) :: contents rest
  | _ :: rest => contents rest

/-! ### Reading back -/

theorem bracket?_closing (rest : Bytes) :
    bracket? (Item.closing.written ++ rest) = some (.closing, Item.closing.written.length) :=
  rfl

theorem bracket?_opening {title : Bytes} (h : '"'.toUInt8 ∉ title) (rest : Bytes) :
    bracket? ((Item.opening title).written ++ rest)
      = some (.opening title, (Item.opening title).written.length) := by
  have htitle : (((Item.opening title).written ++ rest).drop openingHead.length).takeWhile
      (· != '"'.toUInt8) = title := by
    have hne : ∀ b ∈ title, (b != '"'.toUInt8) = true :=
      fun b hb => bne_iff_ne.mpr fun heq => h (heq ▸ hb)
    rw [Item.written, List.append_assoc, List.append_assoc, List.drop_left,
      List.takeWhile_append_of_pos hne]
    exact List.append_nil title
  have hclosing : Item.closing.written.isPrefixOf ((Item.opening title).written ++ rest) = false :=
    rfl
  have hopening :
      (Item.opening title).written.isPrefixOf ((Item.opening title).written ++ rest) = true :=
    List.isPrefixOf_iff_prefix.mpr (List.prefix_append _ rest)
  simp only [bracket?, htitle, List.find?, hclosing, hopening, Option.map_some]

/-- Every bracket begins with a `<`. -/
theorem bracket?_cons {b : UInt8} (h : b ≠ '<'.toUInt8) (rest : Bytes) :
    bracket? (b :: rest) = none := by
  have hclosing : Item.closing.written.isPrefixOf (b :: rest) = false :=
    Bytes.isPrefixOf_of_ne h _ rest
  have hopening : ∀ title, (Item.opening title).written.isPrefixOf (b :: rest) = false :=
    fun title => Bytes.isPrefixOf_of_ne h _ rest
  simp only [bracket?, List.find?, hclosing, hopening, Option.map_none]

theorem items_written_append {item : Item} (h : item.IsReadable) (rest : Bytes) :
    items (item.written ++ rest) = item :: items rest := by
  cases item with
  | opening title => exact Bytes.items_of_some (List.cons_ne_nil _ _) (bracket?_opening h rest)
  | closing => exact Bytes.items_of_some (List.cons_ne_nil _ _) (bracket?_closing rest)
  | octet b =>
    exact Bytes.items_append_of_none (List.forall_mem_singleton.mpr (bracket?_cons h)) rest

/-- What is written is read back. -/
theorem items_written {written : List Item} (h : ∀ item ∈ written, item.IsReadable) :
    items (written.flatMap Item.written) = written := by
  induction written with
  | nil => rfl
  | cons item written ih =>
    rw [List.forall_mem_cons] at h
    rw [List.flatMap_cons, items_written_append h.1, ih h.2]

theorem mem_bare {items : List Item} {b : UInt8} : b ∈ bare items ↔ .octet b ∈ items := by
  rw [bare, List.mem_filterMap]
  constructor
  · rintro ⟨item, hitem, hoctet⟩
    cases item with
    | octet c =>
      obtain rfl := Option.some.inj hoctet
      exact hitem
    | _ => exact absurd hoctet (by simp [Item.octet?])
  · exact fun h => ⟨.octet b, h, rfl⟩

theorem isReadable_of_bare {items : List Item}
    (htitles : ∀ title, .opening title ∈ items → '"'.toUInt8 ∉ title)
    (h : '<'.toUInt8 ∉ bare items) : ∀ item ∈ items, item.IsReadable := by
  intro item hitem
  cases item with
  | opening title => exact htitles title hitem
  | closing => trivial
  | octet b => exact fun heq => h (mem_bare.mpr (heq ▸ hitem))

/-! ### Octets and spans -/

theorem bare_append (front back : List Item) : bare (front ++ back) = bare front ++ bare back :=
  List.filterMap_append

theorem bare_octets (text : Bytes) : bare (text.map .octet) = text := by
  induction text with
  | nil => rfl
  | cons b text ih => exact congrArg (b :: ·) ih

theorem contents_octets (text : Bytes) (rest : List Item) :
    contents (text.map .octet ++ rest) = contents rest := by
  induction text with
  | nil => rfl
  | cons b text ih => exact ih

theorem contents_span (title text : Bytes) (rest : List Item) :
    contents (.opening title :: (text.map .octet ++ .closing :: rest)) = text :: contents rest := by
  have hoctets : ∀ item ∈ text.map Item.octet, decide (item ≠ .closing) = true := by
    intro item hitem
    obtain ⟨b, -, rfl⟩ := List.mem_map.mp hitem
    rfl
  have hinside : (text.map Item.octet ++ .closing :: rest).takeWhile (· ≠ .closing)
      = text.map .octet := by
    rw [List.takeWhile_append_of_pos hoctets]
    exact List.append_nil _
  rw [contents, hinside, bare_octets, contents_octets]
  rfl

end MarkupFeed.Spans
