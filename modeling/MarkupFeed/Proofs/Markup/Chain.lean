import MarkupFeed.Markup.Chain
import MarkupFeed.Proofs.Markup.Decorator

/-!
# A chain is the composition of its members

A chain of decorators writes what its members, one by one, make of a text.

Taking the top decorator off a chain leaves a chain that is sent what the top one writes, piece by
piece, its last piece included (`Chain.passAll_cons`). Since the cuts between these pieces show in
none of the members below, the chain is the composition of its members (`Chain.passAll_fresh`),
the first one that was put in the chain being applied last (`Chain.passAll_ofList`).
-/

namespace MarkupFeed

namespace Decorator

/-- What a decorator writes for each part of a text, and what it writes when it is finished. -/
def pieces (d : Decorator) : List Bytes → List Bytes
  | [] => [d.drain.2]
  | part :: parts => (d.pass part).2 :: (d.pass part).1.pieces parts

theorem flatten_pieces (d : Decorator) (parts : List Bytes) :
    (d.pieces parts).flatten = (d.passAll parts).2 := by
  induction parts generalizing d with
  | nil => exact List.append_nil _
  | cons part parts ih => rw [pieces, List.flatten_cons, ih, passAll_cons]

end Decorator

namespace Chain

/-! ### Sinks without a limit -/

theorem emit_unlimited (state : List Decorator) (text : Bytes) :
    emit Sink.unlimited state text () = ⟨state, (), text, none⟩ := by
  rw [emit, Script.run_text_unlimited]

theorem decorate_unlimited (chain : Chain) (text : Bytes) :
    chain.decorate Sink.unlimited text ()
      = ⟨⟨(pass chain.members text).1⟩, (), (pass chain.members text).2, none⟩ := by
  rw [decorate, emit_unlimited]

theorem output_finish_cons (top : Decorator) (below : List Decorator) :
    (finish ⟨top :: below⟩ Sink.unlimited ()).output
      = (pass below top.drain.2).2
        ++ (finish ⟨(pass below top.drain.2).1⟩ Sink.unlimited ()).output := by
  simp only [finish]
  rw [finishAll]
  simp only [emit_unlimited, Option.isSome_none, Bool.false_eq_true, if_false]

/-! ### Composition -/

/-- What a chain writes for consecutive parts of a text and when it is finished, for a sink that
takes everything. -/
def passAll (chain : Chain) : List Bytes → Bytes
  | [] => (chain.finish Sink.unlimited ()).output
  | part :: parts =>
    let outcome := chain.decorate Sink.unlimited part ()
    outcome.output ++ outcome.state.passAll parts

theorem passAll_nil (parts : List Bytes) : passAll ⟨[]⟩ parts = parts.flatten := by
  induction parts with
  | nil =>
    -- there is nothing to finish
    rw [passAll, finish, finishAll]
    rfl
  | cons part parts ih =>
    rw [passAll, decorate_unlimited, List.flatten_cons]
    exact congrArg (part ++ ·) ih

/-- The chain below the top decorator is sent all the pieces the top one writes. -/
theorem passAll_cons (top : Decorator) (below : List Decorator) (parts : List Bytes) :
    passAll ⟨top :: below⟩ parts = passAll ⟨below⟩ (top.pieces parts) := by
  induction parts generalizing top below with
  | nil =>
    -- what the top one still had to write goes through those beneath before they are finished
    rw [Decorator.pieces, passAll, passAll, passAll, decorate_unlimited]
    exact output_finish_cons top below
  | cons part parts ih =>
    rw [Decorator.pieces, passAll, passAll, decorate_unlimited, decorate_unlimited]
    exact congrArg ((pass below (top.pass part).2).2 ++ ·) (ih _ _)

/-- Fresh decorators on top of each other apply their highlights from the top one down. -/
theorem passAll_fresh {highlights : List Highlight} (h : ∀ x ∈ highlights, x.IsSeamless)
    (parts : List Bytes) :
    passAll ⟨highlights.map Highlight.fresh⟩ parts
      = highlights.foldl (fun text x => x.apply text) parts.flatten := by
  induction highlights generalizing parts with
  | nil => exact passAll_nil parts
  | cons top below ih =>
    rw [List.forall_mem_cons] at h
    rw [List.map_cons, passAll_cons, ih h.2, Decorator.flatten_pieces, (h.1 parts).1]
    rfl

/-- What a chain may be made of. -/
inductive Member where
  /-- The highlight of a format. -/
  | marked (format : Format) (options : Highlight.Options)
  /-- A format's tokens as they are. -/
  | verbatim (format : Format) (style : Cpp.Style)

/-- The highlight of a member of a chain on a site. -/
def Member.highlight (site : Site) : Member → Highlight
  | marked format options => .ofFormat format options site
  | verbatim format style => ⟨format.machine style, .verbatim _⟩

theorem Member.isSeamless_highlight (site : Site) (member : Member) :
    (member.highlight site).IsSeamless := by
  cases member with
  | marked format options => exact Highlight.isSeamless_ofFormat format options site
  | verbatim format style => exact Highlight.isSeamless_verbatim style format

/-- However a text is cut, a chain of fresh decorators on one site writes for it what the first of
them alone makes of what the second alone makes, and so on, of what the last one alone makes of the
text. -/
theorem passAll_ofList (site : Site) (members : List Member) (parts : List Bytes) :
    (ofList (members.map fun member => (member.highlight site).fresh)).passAll parts
      = members.foldr (fun member text => (member.highlight site).apply text) parts.flatten := by
  have hseamless : ∀ x ∈ members.reverse.map (Member.highlight site), x.IsSeamless := by
    intro x hx
    obtain ⟨member, -, rfl⟩ := List.mem_map.mp hx
    exact member.isSeamless_highlight site
  have hfresh : (members.map fun member => (member.highlight site).fresh).reverse
      = (members.reverse.map (Member.highlight site)).map Highlight.fresh := by
    rw [List.map_map, List.map_reverse]
    rfl
  rw [ofList, hfresh, passAll_fresh hseamless, List.foldl_map, List.foldl_reverse]

end Chain

end MarkupFeed
