import Mathlib.Data.List.Forall2
import MarkupFeed.DiagnosticTable
import MarkupFeed.Proofs.Feed.Writer
import MarkupFeed.Proofs.Markup.Decorator
import MarkupFeed.Proofs.Markup.Tags
import MarkupFeed.Proofs.Text.Number
import MarkupFeed.Proofs.Text.Utf8

/-!
# The texts of posts and diagnostics add no tags to what is published

The tags of a post are those of its form: in HTML always the same (`Html.hasTags_pieces`), in RSS a
few for each category (`Rss.hasTags_item`). So are those of a row in a table of diagnostics
(`Diagnostic.hasTags_html`). What is written for several has the tags of each of them in order
(`Form.hasTags_outputAfter`). Main statement: `tags_independent_of_texts`.
-/

namespace MarkupFeed

/-! ### Texts of the writers -/

/-- A text that is written as it is and opens no tag. -/
def Text.IsPlain (text : String) : Prop := '<'.toUInt8 ∉ Bytes.ascii text

instance (text : String) : Decidable (Text.IsPlain text) := by
  unfold Text.IsPlain; infer_instance

namespace Text

theorem IsPlain.append {a b : String} (ha : IsPlain a) (hb : IsPlain b) : IsPlain (a ++ b) := by
  unfold IsPlain at *
  rw [Bytes.ascii_append, List.mem_append, not_or]
  exact ⟨ha, hb⟩

theorem isPlain_of_isNumeral {text : String} {n : Nat} (h : IsNumeral text.toList n) :
    IsPlain text := by
  intro hmem
  obtain ⟨c, hc, hless⟩ := List.mem_map.mp hmem
  exact of_isDigit (p := fun c => c.toUInt8 ≠ '<'.toUInt8) (by decide) (h.isDigit c hc) hless

theorem isPlain_padded (width n : Nat) : IsPlain (padded width n) :=
  isPlain_of_isNumeral (isNumeral_padded width n)

theorem isPlain_toString (n : Nat) : IsPlain (toString n) := by
  apply isPlain_of_isNumeral (n := n)
  rw [Nat.toString_eq_repr, Nat.toList_repr]
  exact isNumeral_toDigits n

end Text

namespace Time

open Text

theorem isPlain_yearText (year : Int) : IsPlain (yearText year) := by
  unfold yearText
  split
  · exact isPlain_padded 4 _
  · apply IsPlain.append _ (isPlain_padded 4 _)
    split <;> decide

theorem isPlain_brief (time : Time) : IsPlain time.brief := by
  have hmonth : IsPlain time.monthText :=
    ((isPlain_yearText _).append (by decide)).append (isPlain_padded 2 _)
  have hdate : IsPlain time.dateText := (hmonth.append (by decide)).append (isPlain_padded 2 _)
  have hminute : IsPlain time.minuteText :=
    ((isPlain_padded 2 _).append (by decide)).append (isPlain_padded 2 _)
  exact (hdate.append (by decide)).append hminute

end Time

open Tags (HasTags hasTags_escapeText hasTags_flatMap)

theorem Text.IsPlain.hasTags {text : String} (h : IsPlain text) :
    HasTags (Bytes.ascii text) [] :=
  Tags.hasTags_of_not_mem h

namespace Feed

/-! ### HTML -/

namespace Html

/-- The tags of a post that so many were written before. -/
def Layout.tags (layout : Layout) (written : Nat) : List Bytes :=
  match layout with
  | divs =>
    ["<div class=\"" ++ parity written ++ "\">", "<h2>", "</h2>", "<p class=\"byline\">", "</p>",
      "<p>", "</p>", "</div>"].map Bytes.ascii
  | rows =>
    ["<tr class=\"" ++ parity written ++ "\">", "<td>", "</td>", "<td>", "</td>", "<td>", "</td>",
      "</tr>"].map Bytes.ascii

theorem hasTags_div (written : Nat) (post : Post) :
    HasTags (div written post) (Layout.divs.tags written) := by
  have hhead : HasTags (Bytes.ascii ("<div class=\"" ++ parity written ++ "\">\n<h2>"))
      (["<div class=\"" ++ parity written ++ "\">", "<h2>"].map Bytes.ascii) := by
    unfold parity
    split <;> decide
  have hbyline : HasTags (Bytes.ascii "</h2>\n<p class=\"byline\">")
      (["</h2>", "<p class=\"byline\">"].map Bytes.ascii) := by decide
  have hcontent : HasTags (Bytes.ascii "</p>\n<p>") (["</p>", "<p>"].map Bytes.ascii) := by decide
  have hend : HasTags (Bytes.ascii "</p>\n</div>\n") (["</p>", "</div>"].map Bytes.ascii) := by
    decide
  exact hhead
    |>.append (hasTags_escapeText _) |>.append hbyline
    |>.append (hasTags_escapeText _) |>.append hcontent
    |>.append (hasTags_escapeText _) |>.append hend

theorem hasTags_row (written : Nat) (post : Post) :
    HasTags (row written post) (Layout.rows.tags written) := by
  have hhead : HasTags (Bytes.ascii ("<tr class=\"" ++ parity written ++ "\"><td>"))
      (["<tr class=\"" ++ parity written ++ "\">", "<td>"].map Bytes.ascii) := by
    unfold parity
    split <;> decide
  have hcell : HasTags (Bytes.ascii "</td><td>") (["</td>", "<td>"].map Bytes.ascii) := by decide
  have hend : HasTags (Bytes.ascii "</td></tr>\n") (["</td>", "</tr>"].map Bytes.ascii) := by
    decide
  -- the date is the one text that is not escaped
  have hdate := (Time.isPlain_brief post.time).hasTags
  unfold row
  rw [Bytes.ascii_append, Bytes.ascii_append _ post.time.brief]
  exact hhead
    |>.append hdate |>.append hcell
    |>.append (hasTags_escapeText _) |>.append hcell
    |>.append (hasTags_escapeText _) |>.append hend

/-- A post in HTML has the tags of its layout, whatever its texts are. -/
theorem hasTags_pieces (layout : Layout) (written : Nat) (post : Post) :
    HasTags (Piece.output ((Form.html layout).pieces written post)) (layout.tags written) := by
  have houtput : Piece.output ((Form.html layout).pieces written post)
      = layout.shown written post := List.append_nil _
  rw [houtput]
  cases layout with
  | divs => exact hasTags_div written post
  | rows => exact hasTags_row written post

end Html

/-! ### RSS -/

namespace Rss

/-- The tags of an element. -/
def elementTags (name : String) : List Bytes :=
  ["<" ++ name ++ ">", "</" ++ name ++ ">"].map Bytes.ascii

/-- The tags of the item of a post with so many categories. -/
def itemTags (categories : Nat) : List Bytes :=
  [Bytes.ascii "<item>"] ++ elementTags "title"
    ++ ["<guid isPermaLink=\"false\">", "</guid>"].map Bytes.ascii ++ elementTags "author"
    ++ elementTags "pubDate" ++ (List.replicate categories (elementTags "category")).flatten
    ++ elementTags "description" ++ [Bytes.ascii "</item>"]

/-- The tags of what opens a channel. -/
def headTags : List Bytes :=
  ["<?xml version=\"1.0\" encoding=\"UTF-8\"?>", "<rss version=\"2.0\">", "<channel>"].map
      Bytes.ascii
    ++ elementTags "title" ++ elementTags "link" ++ elementTags "description"

/-- The tags of what closes a channel. -/
def tailTags : List Bytes := ["</channel>", "</rss>"].map Bytes.ascii

theorem hasTags_element {name : String} (h : '>'.toUInt8 ∉ Bytes.ascii name) (text : String) :
    HasTags (element name text) (elementTags name) := by
  have hopening : HasTags (Bytes.ascii ("<" ++ name ++ ">"))
      [Bytes.ascii ("<" ++ name ++ ">")] := by
    rw [Bytes.ascii_append, Bytes.ascii_append]
    exact Tags.scan_some h _
  have hslash : '>'.toUInt8 ∉ '/'.toUInt8 :: Bytes.ascii name :=
    List.not_mem_cons_of_ne_of_not_mem (by decide) h
  have hclosing : HasTags (Bytes.ascii ("</" ++ name ++ ">"))
      [Bytes.ascii ("</" ++ name ++ ">")] := by
    rw [Bytes.ascii_append, Bytes.ascii_append]
    exact Tags.scan_some hslash _
  have hbreak : HasTags (Bytes.ascii "\n") [] := by decide
  have hend := hclosing.append hbreak
  rw [← Bytes.ascii_append, String.append_assoc] at hend
  exact (hopening.append (hasTags_escapeText text)).append hend

/-- Whether two posts have as many tags, and both have none or both have some. -/
def TaggedAlike (post other : Post) : Prop :=
  post.tags.length = other.tags.length ∧ (post.tag = "" ↔ other.tag = "")

instance (post other : Post) : Decidable (TaggedAlike post other) := by
  unfold TaggedAlike; infer_instance

theorem length_categories {post other : Post} (h : TaggedAlike post other) :
    (categories post).length = (categories other).length := by
  unfold categories
  by_cases hpost : post.tag = ""
  · rw [if_pos hpost, if_pos (h.2.mp hpost)]
  · rw [if_neg hpost, if_neg (mt h.2.mpr hpost), List.length_map, List.length_map, h.1]

/-- Posts that are tagged alike have the same tags as items. -/
theorem flatMap_itemTags_eq {posts others : List Post} (h : List.Forall₂ TaggedAlike posts others) :
    (posts.flatMap fun post => itemTags (categories post).length)
      = others.flatMap fun post => itemTags (categories post).length := by
  induction h with
  | nil => rfl
  | cons hfirst _ ih =>
    rw [List.flatMap_cons, List.flatMap_cons, length_categories hfirst, ih]

/-- The item of a post has tags for each category, and else always the same. -/
theorem hasTags_item (post : Post) :
    HasTags (Piece.output (item post)) (itemTags (categories post).length) := by
  have hopening : HasTags (Bytes.ascii "<item>\n") [Bytes.ascii "<item>"] := by decide
  have hguid : HasTags (Bytes.ascii "<guid isPermaLink=\"false\">")
      [Bytes.ascii "<guid isPermaLink=\"false\">"] := by decide
  have hguidEnd : HasTags (Bytes.ascii "</guid>\n") [Bytes.ascii "</guid>"] := by decide
  have hclosing : HasTags (Bytes.ascii "</item>\n") [Bytes.ascii "</item>"] := by decide
  have hcategory : ∀ text, HasTags (element "category" text) (elementTags "category") :=
    hasTags_element (by decide)
  have hcategories := hasTags_flatMap hcategory (categories post)
  have hhead : HasTags (itemHead post) _ :=
    hopening
      |>.append (hasTags_element (by decide) _)
      |>.append hguid |>.append (hasTags_escapeText post.guid) |>.append hguidEnd
      |>.append (hasTags_element (by decide) _)
  have htail : HasTags (itemTail post) _ :=
    (hasTags_element (by decide) _)
      |>.append hcategories
      |>.append (hasTags_element (by decide) _)
      |>.append hclosing
  have houtput : Piece.output (item post) = itemHead post ++ itemTail post := by
    simp [Piece.output, item, Piece.octets]
  rw [houtput]
  exact hhead.append htail

/-- A channel is opened with the same tags, whatever is said about it. -/
theorem hasTags_channelHead (title link description : String) :
    HasTags (channelHead title link description) headTags := by
  have hopening : HasTags
      (Bytes.ascii "<?xml version=\"1.0\" encoding=\"UTF-8\"?>\n<rss version=\"2.0\">\n<channel>\n")
      (["<?xml version=\"1.0\" encoding=\"UTF-8\"?>", "<rss version=\"2.0\">", "<channel>"].map
        Bytes.ascii) := by decide
  exact hopening
    |>.append (hasTags_element (by decide) title)
    |>.append (hasTags_element (by decide) link)
    |>.append (hasTags_element (by decide) description)

theorem hasTags_channelTail : HasTags channelTail tailTags := by decide

end Rss

/-! ### Several posts -/

namespace Form

/-- What is written for posts has the tags of each of them, in order. -/
theorem hasTags_outputAfter {form : Form} {found : Nat → Post → List Bytes}
    (h : ∀ written post, HasTags (Piece.output (form.pieces written post)) (found written post))
    (posts : List Post) (written : Nat) :
    HasTags (form.outputAfter written posts)
      ((posts.zipIdx written).flatMap fun entry => found entry.2 entry.1) := by
  induction posts generalizing written with
  | nil => exact rfl
  | cons post rest ih => exact (h written post).append (ih (written + 1))

/-- A writer that has written posts to a sink that takes everything. -/
def written (form : Form) (posts : List Post) :
    Attempt (Failure Empty) (Pipeline (Writer Unit)) :=
  Pipeline.postAll (Writer.channel Sink.unlimited form) ⟨[], { memory := () }⟩ posts

/-- Where no date is missing, a writer does not fail, and its output has the tags of its posts. -/
theorem hasTags_written {form : Form} {found : Nat → Post → List Bytes}
    (h : ∀ written post, HasTags (Piece.output (form.pieces written post)) (found written post))
    {posts : List Post} (hdates : ∀ post ∈ posts, form.refusal post = none) :
    (form.written posts).error = none
      ∧ HasTags (form.written posts).state.state.output
          (posts.zipIdx.flatMap fun entry => found entry.2 entry.1) := by
  have hrefusal : posts.findSome? form.refusal = none := List.findSome?_eq_none_iff.mpr hdates
  have houtput : (form.written posts).state.state.output = form.output posts :=
    postAll_unlimited _ hrefusal
  rw [houtput]
  exact ⟨(error_postAll_unlimited form _ posts).trans hrefusal, hasTags_outputAfter h posts 0⟩

/-- In HTML only the number of posts counts. -/
theorem hasTags_written_html (layout : Html.Layout) (posts : List Post) :
    ((html layout).written posts).error = none
      ∧ HasTags ((html layout).written posts).state.state.output
          ((List.range posts.length).flatMap layout.tags) := by
  have hrefusal : ∀ post ∈ posts, (html layout).refusal post = none := fun _ _ => rfl
  obtain ⟨herror, htags⟩ := hasTags_written (Html.hasTags_pieces layout) hrefusal
  refine ⟨herror, ?_⟩
  rwa [List.range_eq_range', ← List.zipIdx_map_snd, List.flatMap_map]

/-- In RSS only the numbers of categories count. -/
theorem hasTags_written_rss {posts : List Post}
    (hdates : ∀ post ∈ posts, post.time.hasMailDate = true) :
    (rss.written posts).error = none
      ∧ HasTags (rss.written posts).state.state.output
          (posts.flatMap fun post => Rss.itemTags (Rss.categories post).length) := by
  have hrefusal : ∀ post ∈ posts, rss.refusal post = none :=
    fun post hpost => if_pos (hdates post hpost)
  have hitems (written : Nat) (post : Post) : HasTags (Piece.output (rss.pieces written post))
      (Rss.itemTags (Rss.categories post).length) := Rss.hasTags_item post
  obtain ⟨herror, htags⟩ := hasTags_written hitems hrefusal
  refine ⟨herror, ?_⟩
  have hfirst := List.flatMap_map Prod.fst
    (fun post => Rss.itemTags (Rss.categories post).length) posts.zipIdx
  rwa [← hfirst, List.zipIdx_map_fst] at htags

end Form

end Feed

/-! ### Diagnostics -/

namespace Diagnostic

/-- The tags of a row. -/
def rowTags : List Bytes :=
  ["<tr>", "<td>", "</td>", "<td>", "</td>", "<td>", "</td>", "</tr>"].map Bytes.ascii

/-- A row of a table of diagnostics has the same tags, whatever was found where. -/
theorem hasTags_html (row : Diagnostic) : HasTags row.html rowTags := by
  have hhead : HasTags (Bytes.ascii "<tr><td>") (["<tr>", "<td>"].map Bytes.ascii) := by decide
  have hcell : HasTags (Bytes.ascii "</td><td>") (["</td>", "<td>"].map Bytes.ascii) := by decide
  have hend : HasTags (Bytes.ascii "</td></tr>\n") (["</td>", "</tr>"].map Bytes.ascii) := by
    decide
  have hline : Text.IsPlain (row.line.elim "" fun line => toString line.toNat) := by
    cases row.line with
    | none => exact List.not_mem_nil
    | some line => exact Text.isPlain_toString line.toNat
  exact hhead
    |>.append (hasTags_escapeText row.file) |>.append hcell
    |>.append hline.hasTags |>.append hcell
    |>.append (hasTags_escapeText row.message) |>.append hend

end Diagnostic

theorem DiagnosticTable.hasTags_html (table : DiagnosticTable) :
    HasTags table.html (List.replicate table.rows.length Diagnostic.rowTags).flatten :=
  hasTags_flatMap Diagnostic.hasTags_html table.rows

/-! ### The tags of what is published -/

namespace Feed

/-- No text adds a tag to what is published. The escaper writes a text as `Entity.escapeText` says,
in whatever parts it gets it. In a layout the tags are those of the layout, as often as there are
posts. Items have those of their form and of their categories, so that posts that are tagged alike
have the same, alone and in a channel with any texts. A table of diagnostics has those of its rows,
as often as there are rows. -/
theorem tags_independent_of_texts :
    (∀ (text : String) (parts : List Bytes), parts.flatten = Utf8.encode text →
        (Highlight.escaper.fresh.passAll parts).2 = Entity.escapeText text)
      ∧ (∀ (layout : Html.Layout) (posts others : List Post), posts.length = others.length →
        let written := (Form.html layout).written posts
        let written' := (Form.html layout).written others
        written.error = none ∧ written'.error = none
          ∧ Tags.tags written.state.state.output
            = (List.range posts.length).flatMap layout.tags
          ∧ Tags.tags written'.state.state.output = Tags.tags written.state.state.output)
      ∧ (∀ posts others : List Post, List.Forall₂ Rss.TaggedAlike posts others →
        (∀ post ∈ posts, post.time.hasMailDate = true) →
        (∀ post ∈ others, post.time.hasMailDate = true) →
        let written := Form.rss.written posts
        let written' := Form.rss.written others
        let items := posts.flatMap fun post => Rss.itemTags (Rss.categories post).length
        written.error = none ∧ written'.error = none
          ∧ Tags.tags written.state.state.output = items
          ∧ Tags.tags written'.state.state.output = items
          ∧ ∀ title link description title' link' description' : String,
            let head := Rss.channelHead title link description
            let head' := Rss.channelHead title' link' description'
            let channel := head ++ written.state.state.output ++ Rss.channelTail
            let channel' := head' ++ written'.state.state.output ++ Rss.channelTail
            Tags.tags channel = Rss.headTags ++ items ++ Rss.tailTags
              ∧ Tags.tags channel' = Tags.tags channel
              ∧ Tags.tags (head' ++ written'.state.state.output)
                = Tags.tags (head ++ written.state.state.output))
      ∧ ∀ table other : DiagnosticTable, table.rows.length = other.rows.length →
        Tags.tags table.html = (List.replicate table.rows.length Diagnostic.rowTags).flatten
          ∧ Tags.tags other.html = Tags.tags table.html := by
  refine ⟨?_, ?_, ?_, ?_⟩
  · intro text parts hparts
    rw [Highlight.passAll_escaper, hparts]
    rfl
  · intro layout posts others hlength written written'
    obtain ⟨herror, htags⟩ := Form.hasTags_written_html layout posts
    obtain ⟨herror', htags'⟩ := Form.hasTags_written_html layout others
    rw [← hlength] at htags'
    exact ⟨herror, herror', htags.tags_eq, htags'.tags_eq.trans htags.tags_eq.symm⟩
  · intro posts others hposts hdates hdates' written written' items
    obtain ⟨herror, htags⟩ := Form.hasTags_written_rss hdates
    obtain ⟨herror', htags'⟩ := Form.hasTags_written_rss hdates'
    rw [← Rss.flatMap_itemTags_eq hposts] at htags'
    refine ⟨herror, herror', htags.tags_eq, htags'.tags_eq, ?_⟩
    intro title link description title' link' description' head head' channel channel'
    have hfeed := (Rss.hasTags_channelHead title link description).append htags
    have hfeed' := (Rss.hasTags_channelHead title' link' description').append htags'
    have hchannel := hfeed.append Rss.hasTags_channelTail
    have hchannel' := hfeed'.append Rss.hasTags_channelTail
    exact ⟨hchannel.tags_eq, hchannel'.tags_eq.trans hchannel.tags_eq.symm,
      hfeed'.tags_eq.trans hfeed.tags_eq.symm⟩
  · intro table other hlength
    have htags := table.hasTags_html
    have htags' := other.hasTags_html
    rw [← hlength] at htags'
    exact ⟨htags.tags_eq, htags'.tags_eq.trans htags.tags_eq.symm⟩

/-- Posts and diagnostics whose texts are full of markup, next to some without any. -/
theorem tags_independent_of_texts_markup :
    let hostile : Post :=
      { guid := "<g>", title := "</title><script>", content := "<![CDATA[", author := "a\"><b",
        tag := "<a>,</item>" }
    let plain : Post := { tag := "a,b" }
    let rows (post : Post) := ((Form.html .rows).written [post]).state.state.output
    let items (post : Post) := (Form.rss.written [post]).state.state.output
    (Highlight.escaper.fresh.passAll [Bytes.ascii "<a\r", [], Bytes.ascii "\n>"]).2
        = Entity.escapeText "<a\r\n>"
      ∧ Tags.tags (rows plain) = Tags.tags (rows hostile)
      ∧ Rss.TaggedAlike hostile plain
      ∧ hostile.time.hasMailDate = true ∧ plain.time.hasMailDate = true
      ∧ Tags.tags (Rss.channelHead "" "" "" ++ items plain ++ Rss.channelTail)
        = Tags.tags (Rss.channelHead "<t>" "<l>" "</channel>" ++ items hostile ++ Rss.channelTail)
      ∧ Tags.tags (DiagnosticTable.html { closed := [{ file := "f", line := some 1 }] })
        = Tags.tags
          (DiagnosticTable.html { closed := [{ file := "<f>", message := "</tr>" }] }) := by
  intro hostile plain rows items
  have htagged : Rss.TaggedAlike hostile plain := by decide
  have hdate : hostile.time.hasMailDate = true := by decide
  have hdate' : plain.time.hasMailDate = true := by decide
  obtain ⟨hescaper, hhtml, hrss, htable⟩ := tags_independent_of_texts
  obtain ⟨-, -, -, hrows⟩ := hhtml .rows [hostile] [plain] rfl
  obtain ⟨-, -, -, -, hchannel⟩ := hrss [hostile] [plain] (.cons htagged .nil)
    (List.forall_mem_singleton.mpr hdate) (List.forall_mem_singleton.mpr hdate')
  obtain ⟨-, hitems, -⟩ := hchannel "<t>" "<l>" "</channel>" "" "" ""
  obtain ⟨-, hdiagnostics⟩ := htable { closed := [{ file := "<f>", message := "</tr>" }] }
    { closed := [{ file := "f", line := some 1 }] } rfl
  exact ⟨hescaper "<a\r\n>" _ (by decide), hrows, htagged, hdate, hdate', hitems, hdiagnostics⟩

end Feed

end MarkupFeed
