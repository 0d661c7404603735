import MarkupFeed.Proofs.Format.FileNames
import MarkupFeed.Proofs.Markup.Decorator

/-!
# What links for file names cover

Free text has whole tokens only, so that its highlight writes event by event: the text of a file
name in a link, and everything else with references for the reserved characters
(`Highlight.passAll_prose`). Hence a link covers what the token covers. A parenthesis ends a token
where the octets in front of it are a name or open one, and nowhere else
(`Prose.not_isName_of_parenthesis`): `Prose.filename_read` says how far a file name reaches.
-/

namespace MarkupFeed

/-! ### Whole tokens -/

namespace Anchors

/-- What is written for an event. -/
def shown (site : Site) : Event Prose.Kind → Bytes
  | .token .filename text _ => (anchor site (Utf8.decodeLossy text)).flatten
  | .token _ text _ => Entity.escape text
  | .newline text => text

variable (site : Site) (links : List String)

theorem output_word (kind : Prose.Kind) (text : Bytes) :
    (word site links kind text).output = shown site (.token kind text false) := by
  cases kind with
  | filename => simp [word, Script.output, shown, List.flatMap_append, List.flatMap_map]
  | _ => exact (Script.output_texts _ _).trans (References.flatten_pieces text)

theorem pending_word (kind : Prose.Kind) (text : Bytes) :
    (word site links kind text).final.pending = [] := by
  cases kind with
  | filename => simp [word, Script.final]
  | _ => exact congrArg State.pending (Script.final_texts _ _)

/-- Between words, the renderer writes what is shown for an event, and keeps none of its octets. -/
theorem render_whole {event : Event Prose.Kind} (h : event.isFragment = false) :
    let script := (renderer site).render (⟨[], links⟩ : State) event
    script.output = shown site event ∧ ∃ links', script.final = (⟨[], links'⟩ : State) := by
  cases event with
  | token kind text fragment =>
    obtain rfl : fragment = false := h
    refine ⟨output_word site links kind text, (word site links kind text).final.links, ?_⟩
    exact congrArg (State.mk · _) (pending_word site links kind text)
  | newline text => exact ⟨List.append_nil _, links, rfl⟩

theorem rendered_eq_flatMap {events : List (Event Prose.Kind)}
    (h : ∀ event ∈ events, event.isFragment = false) :
    ((renderer site).rendered (⟨[], links⟩ : State) events).2 = events.flatMap (shown site) := by
  induction events generalizing links with
  | nil => rfl
  | cons event events ih =>
    rw [List.forall_mem_cons] at h
    obtain ⟨houtput, links', hfinal⟩ := render_whole site links h.1
    simp only [Renderer.rendered, houtput, hfinal, ih links' h.2, List.flatMap_cons]

end Anchors

/-- What is written for a text is what is shown for its tokens and line ends. -/
theorem Highlight.passAll_prose (options : Options) (site : Site) (parts : List Bytes) :
    ((ofFormat .prose options site).fresh.passAll parts).2
      = (Event.merged (Prose.machine.events parts)).flatMap (Anchors.shown site) := by
  have hm : Prose.machine.IsSteady := Format.isSteady_machine Format.defaultStyle .prose
  have hwhole : ∀ event ∈ Event.merged (Prose.machine.events parts), event.isFragment = false := by
    rw [Machine.merged_events hm]
    exact Reading.isFragment_events rfl (fun _ => rfl) rfl parts.flatten
  have hmerged := (Anchors.merges_renderer site).rendered_merged (Anchors.renderer site).start
    (Prose.machine.events parts)
  rw [(passAll_fresh _ parts).1]
  exact (congrArg Prod.snd hmerged).symm.trans (Anchors.rendered_eq_flatMap site [] hwhole)

/-! ### Parentheses -/

namespace Prose

variable {front tail back : Bytes} {s b : UInt8} {k : Nat}

/-- Octets of a file name in front of a parenthesis in it are no name, and open none. -/
theorem not_isName_of_parenthesis
    (hword : machine.stateAfter? State.idle (front ++ b :: back) = some State.filename)
    (hb : State.isParenthesis b = true) : ¬IsName front ∧ ¬OpensName front := by
  obtain ⟨s, next, hfront, hstep⟩ := Machine.exists_shift_of_stateAfter? hword
  have hs := State.describes_of_stateAfter? hfront
  have hshift : State.step s b = .shift next := hstep
  rw [← hs.filename_iff, hs.opensName_iff]
  constructor
  · rintro rfl
    simp [State.step, hb] at hshift
  · rintro (rfl | rfl) <;> simp [State.step, hb] at hshift

/-- Behind the separators that open the name there is no parenthesis. -/
theorem isParenthesis_eq_false_of_tail
    (hword : machine.stateAfter? State.idle (front ++ (List.replicate k s ++ tail))
      = some State.filename)
    (hopens : Opens s k) (hfront : front.getLast? ≠ some s)
    (hplain : ∀ b ∈ tail, isSeparator b = false) : ∀ b ∈ tail, State.isParenthesis b = false := by
  intro b hmem
  rw [← Bool.not_eq_true]
  intro hb
  obtain ⟨init, rest, rfl⟩ := List.append_of_mem hmem
  have hsplit : front ++ (List.replicate k s ++ (init ++ b :: rest))
      = front ++ (List.replicate k s ++ init) ++ b :: rest := by simp
  rw [hsplit] at hword
  obtain ⟨hname, hopen⟩ := not_isName_of_parenthesis hword hb
  have hinit : ∀ c ∈ init, isSeparator c = false :=
    fun c hc => hplain c (List.mem_append_left _ hc)
  exact (isName_or_opensName hopens hfront hinit).elim hname hopen

/-- White space and parentheses end a file name. -/
theorem State.reject_filename {next : State} (h : State.step .filename b = .reject next) :
    Octet.isSpaceOrTab b = true ∨ State.isParenthesis b = true := by
  rw [← Bool.or_eq_true]
  by_contra hb
  rw [State.step, if_neg hb] at h
  repeat' split at h
  all_goals cases h

/-- How far a file name reaches, whatever buffers the text comes in. In front of a parenthesis in it
there is no name, and none is opened; so none stands behind the separators that make the word a
name. Behind the file name there is white space, a parenthesis or a line end, or nothing. The link
that is written covers it as a whole. -/
theorem filename_read (options : Highlight.Options) (site : Site) {buffers : List Bytes}
    {before after : List (Event Kind)} {text : Bytes}
    (h : Event.merged (machine.events buffers) = before ++ .token .filename text false :: after) :
    (∀ front b back, text = front ++ b :: back → State.isParenthesis b = true →
        ¬IsName front ∧ ¬OpensName front)
      ∧ (∃ (front : Bytes) (s : UInt8) (k : Nat) (tail : Bytes),
        text = front ++ (List.replicate k s ++ tail) ∧ Opens s k ∧ front.getLast? ≠ some s
          ∧ tail ≠ [] ∧ ∀ b ∈ tail, isSeparator b = false ∧ State.isParenthesis b = false)
      ∧ (∀ b ∈ (Event.source after).head?, Octet.isSpaceOrTab b = true
        ∨ State.isParenthesis b = true ∨ b = Octet.lineFeed ∨ b = Octet.carriageReturn)
      ∧ ((Highlight.ofFormat .prose options site).fresh.passAll buffers).2
        = before.flatMap (Anchors.shown site)
          ++ ((Anchors.anchor site (Utf8.decodeLossy text)).flatten
            ++ after.flatMap (Anchors.shown site)) := by
  obtain ⟨s, hword, -, hkind, hnext⟩ := exists_state_of_token h
  obtain rfl : s = .filename := by cases s <;> simp [State.kind] at hkind ⊢
  refine ⟨?_, ?_, ?_, ?_⟩
  · rintro front b back rfl hb
    exact not_isName_of_parenthesis hword hb
  · obtain ⟨front, s, k, tail, rfl, hopens, hfront, htail, hplain⟩ :=
      (State.describes_of_stateAfter? hword).filename_iff.mp rfl
    have hparens := isParenthesis_eq_false_of_tail hword hopens hfront hplain
    exact ⟨front, s, k, tail, rfl, hopens, hfront, htail, fun b hb => ⟨hplain b hb, hparens b hb⟩⟩
  · intro b hb
    rcases hnext b hb with hreject | hline
    · exact (State.reject_filename hreject).imp_right .inl
    · exact .inr (.inr hline)
  · rw [Highlight.passAll_prose, h, List.flatMap_append, List.flatMap_cons]
    rfl

/-- A parenthesis in front of the dot, and one behind the name. -/
theorem filename_read_call :
    let text := Bytes.ascii "f(a.txt"
    Event.merged (machine.events [Bytes.ascii "see f(a", Bytes.ascii ".txt)"])
        = [.token .text (Bytes.ascii "see") false, .token .space (Bytes.ascii " ") false]
          ++ .token .filename text false :: [.token .text (Bytes.ascii ")") false]
      ∧ ¬OpensName (Bytes.ascii "f") := by
  have h : Event.merged (machine.events [Bytes.ascii "see f(a", Bytes.ascii ".txt)"])
      = [.token .text (Bytes.ascii "see") false, .token .space (Bytes.ascii " ") false]
        ++ .token .filename (Bytes.ascii "f(a.txt") false
          :: [.token .text (Bytes.ascii ")") false] := by decide
  have hread := filename_read {} ⟨"", fun _ => false⟩ h
  have hparenthesis :
      Bytes.ascii "f(a.txt" = Bytes.ascii "f" ++ '('.toUInt8 :: Bytes.ascii "a.txt" := by decide
  exact ⟨h, (hread.1 _ _ _ hparenthesis (by decide)).2⟩

/-- A parenthesis that begins the word stays in the file name, and in the link. -/
theorem parenthesis_in_filename :
    machine.tokens (Bytes.ascii "(foo.txt)")
        = [.token .filename (Bytes.ascii "(foo.txt") false, .token .text (Bytes.ascii ")") false]
      ∧ '('.toUInt8 ∈ Bytes.ascii "(foo.txt"
      ∧ (Highlight.ofFormat .prose {} ⟨"", fun _ => true⟩).apply (Bytes.ascii "(foo.txt)")
        = Bytes.ascii "<a href=\"/(foo.txt\">(foo.txt</a>)" := by
  refine ⟨?_, ?_, ?_⟩ <;> decide +kernel

end Prose

end MarkupFeed
