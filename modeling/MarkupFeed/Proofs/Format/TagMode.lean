import MarkupFeed.Proofs.Format.Restarting

/-!
# What takes the machine of XML and HTML out of a tag

Inside a tag no octet begins character data, and an octet takes the machine out of the tag only
where it completes one of a few tokens (`Xml.State.inMarkup_step`). Over all calls a tokenizer
answers, a tag therefore stays open up to the first of these tokens, and nothing in front of that
one is read as character data: `Xml.inTag_or_hasLeft`. The tokens are those that are made to close a
tag or a declaration (`Xml.closers`), and, wherever it stands, a comment.
-/

namespace MarkupFeed

/-- The state after the step has the one property, or the step completes a token in a state that has
the other. -/
def Step.KeepsUnless {σ : Type} (p q : σ → Prop) : Step σ → Prop
  | .shift next | .reject next => p next
  | .accept next => p next ∨ q next

namespace Xml

/-- The tokens that are made to close a tag or a declaration. -/
def closers : List Kind := [.closeTag, .emptyElementEnd, .declEnd]

/-- The tokens behind which no tag is open: the closers, and comments. -/
def leaving : List Kind := .comment :: closers

/-! ### One octet -/

theorem Token.finalKind_complete (kind : Kind) : (complete kind).finalKind = kind := rfl

/-- A token that ends has the kind it had, or is an error. -/
theorem Token.finalKind_eq (token : Token) :
    token.finalKind = .error ∨ token.finalKind = token.kind := by
  cases token with
  | comment | commentDash | commentDashes | attValue _ | bangDash | slash | question =>
    exact .inl rfl
  | _ => exact .inr rfl

namespace State

/-- A tag is open, and no character data is in progress. -/
def InMarkup (s : State) : Prop := s.inTag = true ∧ s.token.kind ≠ .content

/-- Inside a tag no character data is in progress. -/
def IsCoherent (s : State) : Prop := s.inTag = true → s.InMarkup

variable {s : State}

/-- A tag that an octet opens is not opened inside character data. -/
theorem shifts_isCoherent (h : s.IsCoherent) (b : UInt8) :
    (machine.step s b).Shifts IsCoherent := by
  obtain ⟨inTag, token⟩ := s
  show (step ⟨inTag, token⟩ b).Shifts IsCoherent
  cases token <;> grind [IsCoherent, InMarkup, step, lead, fail, Step.Shifts, Token.kind]

/-- An octet takes the machine out of markup only where it completes one of the leaving tokens. -/
theorem inMarkup_step (h : s.InMarkup) (b : UInt8) :
    (machine.step s b).KeepsUnless InMarkup (·.token.finalKind ∈ leaving) := by
  obtain ⟨inTag, token⟩ := s
  show (step ⟨inTag, token⟩ b).KeepsUnless InMarkup (·.token.finalKind ∈ leaving)
  cases token <;>
    grind [InMarkup, step, lead, fail, Step.KeepsUnless, Token.finalKind_complete, Token.kind,
      leaving, closers]

theorem isCoherent_finish (s : State) : s.finish.2.IsCoherent :=
  fun htag => ⟨htag, by simp [finish, Token.kind]⟩

theorem inMarkup_finish (h : s.InMarkup) : s.finish.2.InMarkup :=
  s.isCoherent_finish (by simp [finish, h.1])

theorem finish_ne_content (h : s.InMarkup) : s.finish.1 ≠ .content := by
  show s.token.finalKind ≠ .content
  rcases s.token.finalKind_eq with herror | hkind
  · simp [herror]
  · rw [hkind]
    exact h.2

theorem inMarkup_newline (h : s.InMarkup) : State.InMarkup (machine.newline s) := by
  obtain ⟨inTag, token⟩ := s
  have hkind : token.newline.kind = token.kind := by
    cases token <;> simp only [Token.newline, Token.kind]
  exact ⟨h.1, hkind ▸ h.2⟩

end State

/-! ### All calls -/

/-- None of the events is a piece of character data. -/
def NoContent (events : List (Event Kind)) : Prop :=
  ∀ text fragment, .token .content text fragment ∉ events

theorem NoContent.concat {events : List (Event Kind)} (h : NoContent events) {event : Event Kind}
    (hevent : ∀ text fragment, .token .content text fragment ≠ event) :
    NoContent (events ++ [event]) := by
  intro text fragment hmem
  rcases List.mem_append.mp hmem with hmem | hmem
  · exact h text fragment hmem
  · exact hevent text fragment (List.mem_singleton.mp hmem)

/-- Among the events there is a leaving token, and in front of the first there is no character
data. -/
def HasLeft (events : List (Event Kind)) : Prop :=
  ∃ front kind text back, events = front ++ .token kind text false :: back
    ∧ kind ∈ leaving ∧ NoContent front

theorem HasLeft.append {events : List (Event Kind)} (h : HasLeft events)
    (more : List (Event Kind)) : HasLeft (events ++ more) := by
  obtain ⟨front, kind, text, back, rfl, hkind, hfront⟩ := h
  exact ⟨front, kind, text, back ++ more, by simp, hkind, hfront⟩

/-- A tag is open and nothing was read as character data, or some token has left the tag. -/
def OpenOrLeft (s : State) (events : List (Event Kind)) : Prop :=
  (s.InMarkup ∧ NoContent events) ∨ HasLeft events

variable {s next : State} {events : List (Event Kind)}

/-- What holds in markup, and goes on holding once the tag is left, holds in either case. -/
theorem OpenOrLeft.elim (h : OpenOrLeft s events) {more : List (Event Kind)}
    (hopen : s.InMarkup → NoContent events → OpenOrLeft next (events ++ more)) :
    OpenOrLeft next (events ++ more) := by
  rcases h with ⟨hmarkup, hevents⟩ | hleft
  · exact hopen hmarkup hevents
  · exact .inr (hleft.append more)

/-- A token that ends leaves its tag open, unless it is a leaving token. -/
theorem openOrLeft_finish (h : s.InMarkup ∨ s.token.finalKind ∈ leaving)
    (hevents : NoContent events) (text : Bytes) :
    OpenOrLeft s.finish.2 (events ++ [.token s.finish.1 text false]) := by
  rcases h with hmarkup | hleaving
  · refine .inl ⟨State.inMarkup_finish hmarkup, hevents.concat ?_⟩
    intro text' fragment heq
    have hkind : Kind.content = s.finish.1 := (Event.token.inj heq).1
    exact State.finish_ne_content hmarkup hkind.symm
  · exact .inr ⟨events, _, text, [], rfl, hleaving, hevents⟩

theorem upholds_isCoherent : machine.Upholds fun s _ _ => State.IsCoherent s where
  shift {_ _ _ b _} h hstep := by
    have hnext := State.shifts_isCoherent h b
    rwa [hstep] at hnext
  accept _ _ := State.isCoherent_finish _
  reject _ _ _ := State.isCoherent_finish _
  refuse _ _ _ := State.isCoherent_finish _
  close _ _ := State.isCoherent_finish _
  interrupt h _ _ := h
  drop h := h
  newline h _ := fun htag => State.inMarkup_newline (h htag)
  join _ h _ := h

theorem upholds_openOrLeft : machine.Upholds fun s _ events => OpenOrLeft s events where
  shift {_ _ _ b _} h hstep := by
    refine h.imp_left fun ⟨hmarkup, hevents⟩ => ⟨?_, hevents⟩
    have hnext := State.inMarkup_step hmarkup b
    rwa [hstep] at hnext
  accept {_ _ _ b _} h hstep := h.elim fun hmarkup hevents => by
    have hnext := State.inMarkup_step hmarkup b
    rw [hstep] at hnext
    exact openOrLeft_finish hnext hevents _
  reject {_ _ _ b _} h _ hstep := h.elim fun hmarkup hevents => by
    have hnext := State.inMarkup_step hmarkup b
    rw [hstep] at hnext
    exact openOrLeft_finish (.inl hnext) hevents _
  refuse {_ _ _ b _} h _ hstep := h.elim fun hmarkup hevents => by
    have hnext := State.inMarkup_step hmarkup b
    rw [hstep] at hnext
    exact .inl ⟨State.inMarkup_finish hnext, hevents.concat fun _ _ => (nomatch ·)⟩
  close h _ := h.elim fun hmarkup hevents => openOrLeft_finish (.inl hmarkup) hevents _
  interrupt h _ _ := h.elim fun hmarkup hevents => by
    refine .inl ⟨hmarkup, hevents.concat ?_⟩
    intro text fragment heq
    exact hmarkup.2 (Event.token.inj heq).1.symm
  drop h := h
  newline h _ := h.elim fun hmarkup hevents =>
    .inl ⟨State.inMarkup_newline hmarkup, hevents.concat fun _ _ => (nomatch ·)⟩
  join _ h _ := h

/-- Whatever calls a tokenizer has answered: if a tag is open then, all further calls leave it open
and read no character data, or they report one of the leaving tokens, and no character data in front
of it. -/
theorem inTag_or_hasLeft (before more : List Tokenizer.Call) :
    let t := ((Tokenizer.fresh machine).calls before).1
    let events := Report.events (t.calls more).2.flatten
    machine.mode t.state = some true →
      (machine.mode (t.calls more).1.state = some true ∧ NoContent events) ∨ HasLeft events := by
  intro t events hmode
  have hfresh : (Tokenizer.fresh machine).Upholds (fun s _ _ => State.IsCoherent s) [] :=
    ⟨(nomatch ·), fun hne => absurd rfl hne⟩
  have hbefore := Tokenizer.upholds_calls upholds_isCoherent hfresh before
  have hmarkup : State.InMarkup t.state := hbefore.holds (Option.some.inj hmode)
  -- the tag is open, and of what is reported from now on there is nothing yet
  have hopen : t.Upholds (fun s _ events => OpenOrLeft s events) [] :=
    ⟨.inl ⟨hmarkup, fun _ _ => List.not_mem_nil⟩, hbefore.continuation⟩
  have hmore := (Tokenizer.upholds_calls upholds_openOrLeft hopen more).holds
  exact hmore.imp_left fun ⟨hmarkup, hevents⟩ => ⟨congrArg some hmarkup.1, hevents⟩

/-- An error, and a value that is not closed. -/
theorem inTag_or_hasLeft_error :
    let before := [Tokenizer.Call.feed (Bytes.ascii "<a")]
    let more := [Tokenizer.Call.feed (Bytes.ascii " @@ b='"), .feed (Bytes.ascii ">"), .flush]
    let t := ((Tokenizer.fresh machine).calls before).1
    let events := Report.events (t.calls more).2.flatten
    machine.mode t.state = some true
      ∧ ((machine.mode (t.calls more).1.state = some true ∧ NoContent events)
        ∨ HasLeft events) := by
  have hmode : machine.mode
      ((Tokenizer.fresh machine).calls [.feed (Bytes.ascii "<a")]).1.state = some true := by
    decide +kernel
  exact ⟨hmode, inTag_or_hasLeft _ _ hmode⟩

/-- A comment in a tag takes the machine out of it: no closer is reported, and the rest of the tag
is read as character data. -/
theorem comment_hasLeft :
    let t := ((Tokenizer.fresh machine).calls [.feed (Bytes.ascii "<a b=''")]).1
    let more := [Tokenizer.Call.feed (Bytes.ascii "<!--x--> c>"), .flush]
    machine.mode t.state = some true
      ∧ machine.mode (t.calls more).1.state = some false
      ∧ Report.events (t.calls more).2.flatten
        = [.token .comment (Bytes.ascii "<!--x-->") false,
          .token .content (Bytes.ascii " c>") true, .token .content [] false] := by
  refine ⟨?_, ?_, ?_⟩ <;> decide +kernel

end Xml

end MarkupFeed
