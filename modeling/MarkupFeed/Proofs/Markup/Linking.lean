import MarkupFeed.Proofs.Markup.Anchors
import MarkupFeed.Proofs.Markup.Escaper
import MarkupFeed.Proofs.Text.Faults
import MarkupFeed.Proofs.Tokenizer.Continuations

/-!
# What is left of a text when its links are taken out again

`Anchors.withoutTags` deletes the tags of links. It finds those that were written and no others
(`Anchors.withoutTags_flatMap`), since all else is escaped. With the references replaced, this
leaves every token as it was, but for file names that are not UTF-8 (`Anchors.kept`). What is shown
for these is never shorter, so that the text comes out unchanged if and only if there are none:
`Highlight.text_kept_iff`.
-/

namespace MarkupFeed

/-! ### Texts put together from others -/

section Lists

variable {α : Type} {f g : α → Bytes} {list : List α}

theorem length_flatMap_le (h : ∀ x ∈ list, (g x).length ≤ (f x).length) :
    (list.flatMap g).length ≤ (list.flatMap f).length := by
  induction list with
  | nil => exact Nat.le_refl 0
  | cons x list ih =>
    rw [List.forall_mem_cons] at h
    rw [List.flatMap_cons, List.flatMap_cons, List.length_append, List.length_append]
    exact Nat.add_le_add h.1 (ih h.2)

/-- Where no part of a text is replaced with a shorter one, the text stays the same only if every
part does. -/
theorem flatMap_eq_flatMap_iff (h : ∀ x ∈ list, (g x).length ≤ (f x).length) :
    list.flatMap f = list.flatMap g ↔ ∀ x ∈ list, f x = g x := by
  refine ⟨fun heq => ?_, List.flatMap_congr⟩
  induction list with
  | nil => exact List.forall_mem_nil _
  | cons x list ih =>
    rw [List.forall_mem_cons] at h ⊢
    rw [List.flatMap_cons, List.flatMap_cons] at heq
    have hlength := congrArg List.length heq
    rw [List.length_append, List.length_append] at hlength
    have hrest := length_flatMap_le h.2
    have hfirst := h.1
    obtain ⟨hx, hmore⟩ := List.append_inj heq (by omega)
    exact ⟨hx, ih h.2 hmore⟩

end Lists

/-! ### Tokens of a text -/

theorem Machine.tokens_eq {m : Machine} (hm : m.IsSteady) (input : Bytes) :
    m.tokens input = Reading.events {} input := by
  rw [Machine.tokens, m.merged_events hm, List.flatten_singleton]

/-- The line ends among the tokens are line ends. -/
theorem Machine.isMadeOf_tokens {m : Machine} (hm : m.IsSteady) (input : Bytes) :
    ∀ event ∈ m.tokens input, event.IsMadeOf fun _ => True := by
  rw [m.tokens_eq hm]
  exact fun event hevent => (Reading.isJoined_events input event hevent).mono fun _ _ => trivial

namespace Anchors

/-! ### Tags of links -/

/-- The tag of a link at the front of a text, and its length: one that closes a link, or one that
opens one, up to the next `>`. -/
def tag? (text : Bytes) : Option (Option UInt8 × Nat) :=
  if (Bytes.ascii "</a>").isPrefixOf text then some (none, 4)
  else if (Bytes.ascii "<a ").isPrefixOf text then
    some (none, (text.takeWhile (· != '>'.toUInt8)).length + 1)
  else none

/-- The text without the tags of links. -/
def withoutTags (text : Bytes) : Bytes := (Bytes.items tag? some text).filterMap id

variable {text inside : Bytes} (rest : Bytes)

/-- Text that does not open a tag stays. -/
theorem withoutTags_append (h : '<'.toUInt8 ∉ text) :
    withoutTags (text ++ rest) = text ++ withoutTags rest := by
  have hnone : ∀ b ∈ text, ∀ rest, tag? (b :: rest) = none := by
    intro b hb rest
    have hne : b ≠ '<'.toUInt8 := fun heq => h (heq ▸ hb)
    have hother : ∀ more, List.isPrefixOf ('<'.toUInt8 :: more) (b :: rest) = false :=
      fun more => Bytes.isPrefixOf_of_ne hne more rest
    rw [tag?, if_neg (Bool.not_eq_true _ ▸ hother _), if_neg (Bool.not_eq_true _ ▸ hother _)]
  rw [withoutTags, Bytes.items_append_of_none hnone, List.filterMap_append, List.filterMap_map]
  exact congrArg (· ++ withoutTags rest) List.filterMap_some

theorem withoutTags_tag {tag : Bytes} (hne : tag ≠ [])
    (h : tag? (tag ++ rest) = some (none, tag.length)) :
    withoutTags (tag ++ rest) = withoutTags rest := by
  rw [withoutTags, Bytes.items_of_some hne h]
  rfl

theorem withoutTags_closing : withoutTags (Bytes.ascii "</a>" ++ rest) = withoutTags rest :=
  withoutTags_tag rest (by decide) rfl

theorem withoutTags_opening (h : '>'.toUInt8 ∉ inside) :
    withoutTags (Bytes.ascii "<a " ++ inside ++ ['>'.toUInt8] ++ rest) = withoutTags rest := by
  have hnone : ∀ b ∈ Bytes.ascii "<a " ++ inside, (b != '>'.toUInt8) = true := by
    intro b hb
    rw [bne_iff_ne]
    rintro rfl
    exact (List.mem_append.mp hb).elim (by decide) h
  have hlength : ((Bytes.ascii "<a " ++ inside ++ ['>'.toUInt8] ++ rest).takeWhile
      (· != '>'.toUInt8)).length = (Bytes.ascii "<a " ++ inside).length := by
    rw [List.append_assoc, List.takeWhile_append_of_pos hnone]
    simp
  refine withoutTags_tag rest (by simp) ?_
  rw [List.length_append, ← hlength]
  rfl

/-! ### What is written for a text -/

/-- The octets of an event that are left when the links are taken out again: those of what is shown
for a file name, and all those of other events. -/
def kept : Event Prose.Kind → Bytes
  | .token .filename text _ => Utf8.encode (Utf8.decodeLossy text)
  | .token _ text _ => text
  | .newline text => text

variable (site : Site)

/-- What stands in the tag that opens a link. -/
def attributes (name : String) : Bytes :=
  Bytes.ascii "href=\"" ++ Entity.escapeText (Link.resolve site name) ++ Bytes.ascii "\""
    ++ Bytes.ascii (Link.classify site name).attribute

theorem greater_not_mem_attributes (name : String) : '>'.toUInt8 ∉ attributes site name := by
  have hescape : '>'.toUInt8 ∉ Entity.escapeText (Link.resolve site name) := fun hmem =>
    absurd (Entity.eq_ampersand_of_mem_escape hmem (.inr (.inr (.inl rfl)))) (by decide)
  simp only [attributes, List.mem_append, not_or]
  refine ⟨⟨⟨by decide, hescape⟩, by decide⟩, ?_⟩
  cases Link.classify site name <;> decide

theorem flatten_anchor (name : String) :
    (anchor site name).flatten
      = Bytes.ascii "<a " ++ attributes site name ++ ['>'.toUInt8]
        ++ (Entity.escapeText name ++ Bytes.ascii "</a>") := by
  have hhead : Bytes.ascii "<a href=\"" = Bytes.ascii "<a " ++ Bytes.ascii "href=\"" := by decide
  have hend : Bytes.ascii ">" = ['>'.toUInt8] := by decide
  simp only [anchor, attributes, Entity.escapeText, hhead, hend, List.flatten_append,
    References.flatten_pieces, List.flatten_cons, List.flatten_nil, List.append_assoc,
    List.append_nil]

/-- What is left of a link is its text. -/
theorem withoutTags_anchor (name : String) :
    withoutTags ((anchor site name).flatten ++ rest)
      = Entity.escapeText name ++ withoutTags rest := by
  have hless : '<'.toUInt8 ∉ Entity.escapeText name := Entity.less_not_mem_escape (Utf8.encode name)
  rw [flatten_anchor, List.append_assoc,
    withoutTags_opening _ (greater_not_mem_attributes site name), List.append_assoc,
    withoutTags_append _ hless, withoutTags_closing]

/-- Behind every event that is written, what is left is escaped. -/
theorem withoutTags_shown {event : Event Prose.Kind} (h : event.IsMadeOf fun _ => True) :
    withoutTags (shown site event ++ rest) = Entity.escape (kept event) ++ withoutTags rest := by
  cases event with
  | token kind text fragment =>
    cases kind with
    | filename => exact withoutTags_anchor rest site (Utf8.decodeLossy text)
    | _ => exact withoutTags_append rest (Entity.less_not_mem_escape text)
  | newline text =>
    have hplain : Entity.escape text = text := References.escape_of_not_reserved fun b hb => by
      rcases Bytes.eq_or_eq_of_mem_lineEnds h hb with rfl | rfl <;> rfl
    have hless := Entity.less_not_mem_escape text
    rw [hplain] at hless
    rw [kept, hplain]
    exact withoutTags_append rest hless

theorem withoutTags_flatMap {events : List (Event Prose.Kind)}
    (h : ∀ event ∈ events, event.IsMadeOf fun _ => True) :
    withoutTags (events.flatMap (shown site)) = Entity.escape (events.flatMap kept) := by
  induction events with
  | nil => rfl
  | cons event events ih =>
    rw [List.forall_mem_cons] at h
    rw [List.flatMap_cons, withoutTags_shown _ site h.1, ih h.2, List.flatMap_cons,
      Entity.escape_append]

/-- What is left of an event has at least its octets. -/
theorem length_le_kept (event : Event Prose.Kind) : event.text.length ≤ (kept event).length := by
  cases event with
  | token kind text fragment =>
    cases kind with
    | filename => exact Utf8.length_le_encode_decodeLossy text
    | _ => exact Nat.le_refl _
  | newline text => exact Nat.le_refl _

end Anchors

/-- With the tags of its links deleted and the references replaced, what is written for a text is
the text with every file name as it is shown: octets that are no UTF-8 are replaced in it. So the
text is left as it was if and only if all file names in it are UTF-8. -/
theorem Highlight.text_kept_iff (options : Options) (site : Site) (parts : List Bytes) :
    let written := ((ofFormat .prose options site).fresh.passAll parts).2
    let left := Entity.unescape (Anchors.withoutTags written)
    let tokens : List (Event Prose.Kind) := Prose.machine.tokens parts.flatten
    Event.source tokens = parts.flatten
      ∧ left = tokens.flatMap Anchors.kept
      ∧ (left = parts.flatten ↔ ∀ text fragment, .token .filename text fragment ∈ tokens →
        (Utf8.decode? text).isSome) := by
  have hm : Prose.machine.IsSteady := Format.isSteady_machine Format.defaultStyle .prose
  intro written left tokens
  have hreading : Event.merged (Prose.machine.events parts) = tokens :=
    (Machine.merged_events hm parts).trans (Machine.tokens_eq hm parts.flatten).symm
  have hsource : Event.source tokens = parts.flatten :=
    (Event.merged_source _).trans ((Machine.source_events hm [parts.flatten]).trans (by simp))
  have hwritten : written = tokens.flatMap (Anchors.shown site) :=
    (passAll_prose options site parts).trans (congrArg (List.flatMap (Anchors.shown site)) hreading)
  have hleft : left = tokens.flatMap Anchors.kept := by
    show Entity.unescape (Anchors.withoutTags written) = _
    rw [hwritten, Anchors.withoutTags_flatMap site (Machine.isMadeOf_tokens hm parts.flatten),
      Entity.unescape_escape]
  refine ⟨hsource, hleft, ?_⟩
  rw [hleft, ← hsource, Event.source,
    flatMap_eq_flatMap_iff fun event _ => Anchors.length_le_kept event]
  constructor
  · intro h text fragment htoken
    exact Utf8.encode_decodeLossy_eq_iff.mp (h _ htoken)
  · intro h event hevent
    cases event with
    | token kind text fragment =>
      cases kind with
      | filename => exact Utf8.encode_decodeLossy_eq_iff.mpr (h text fragment hevent)
      | _ => rfl
    | newline text => rfl

/-- An octet of a file name that is no UTF-8 is lost. -/
theorem Highlight.octet_lost_in_filename :
    let text : Bytes := [0x61, 0x2E, 0xFF]
    let written := ((ofFormat .prose {} ⟨"", fun _ => false⟩).fresh.passAll [text]).2
    Entity.unescape (Anchors.withoutTags written) = Utf8.encode "a.\ufffd"
      ∧ Entity.unescape (Anchors.withoutTags written) ≠ text := by
  decide +kernel

end MarkupFeed
