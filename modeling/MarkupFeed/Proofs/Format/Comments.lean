import MarkupFeed.Proofs.Format.Enclosing
import MarkupFeed.Proofs.Format.Spelling

/-!
# Where comments of XML and of C and C++ end

Comments of XML and block comments of C and C++ end at the first terminator.

In a comment the state tells how much of the terminator has been read (`Xml.inComment`,
`Cpp.inComment`), so that a machine of either format encloses it (`Xml.encloses_comment`,
`Cpp.encloses_comment`); a line end leaves nothing of that. The opener is read from between tokens;
in C and C++ there may be line continuations in it (`Bytes.exists_of_unjoinedFrom_eq_cons`). The
main result, `Format.comments_end`, says of both formats what the events of a comment are, whatever
buffers the input comes in.
-/

namespace MarkupFeed

variable {m : Machine}

/-! ### The opener -/

namespace Reading

variable {r : Reading m} {b : UInt8} {rest : Bytes}

/-- An octet that goes on a token. -/
theorem events_of_shift {next : m.State}
    (hb : ¬(b = Octet.lineFeed ∨ b = Octet.carriageReturn)) (hback : b ≠ Octet.backslash)
    (hstep : m.step r.state b = .shift next) (rest : Bytes) :
    r.events (b :: rest) = events ⟨next, r.run ++ [b], .none⟩ rest := by
  have hoffer : r.offer b = ([], ⟨next, r.run ++ [b], .none⟩) := by simp [offer, take, hstep]
  have hreads : r.Reads (b :: rest) (r.offer b).1 (r.offer b).2 rest :=
    .offer hb fun h => hback h.1
  rw [hreads.events_eq, hoffer]
  rfl

/-- Octets that go on a token. -/
theorem events_of_stateAfter? {word : Bytes} {t : m.State} (hc : r.continuation = .none)
    (hline : word.IsLine) (hback : Octet.backslash ∉ word)
    (hword : m.stateAfter? r.state word = some t) (rest : Bytes) :
    r.events (word ++ rest) = events ⟨t, r.run ++ word, .none⟩ rest := by
  induction word generalizing r with
  | nil =>
    obtain ⟨state, run, continuation⟩ := r
    obtain rfl : continuation = .none := hc
    obtain rfl : state = t := Option.some.inj hword
    rw [List.append_nil]
    rfl
  | cons b word ih =>
    rw [Machine.stateAfter?] at hword
    cases hstep : m.step r.state b with
    | shift next =>
      rw [hstep] at hword
      have hb := hline b List.mem_cons_self
      rw [List.cons_append, events_of_shift (not_or.mpr hb)
        (fun h => hback (h ▸ List.mem_cons_self)) hstep,
        ih rfl (fun c hc => hline c (List.mem_cons_of_mem b hc))
          (fun h => hback (List.mem_cons_of_mem b h)) hword, List.append_assoc]
      rfl
    | accept next =>
      rw [hstep] at hword
      exact absurd hword (by simp)
    | reject next =>
      rw [hstep] at hword
      exact absurd hword (by simp)

end Reading

/-- A text that begins with an octet, line continuations apart, begins with line continuations that
a token takes in, and with this octet behind them. -/
theorem Bytes.exists_of_unjoinedFrom_eq_cons {c : Continuation} {text tail : Bytes} {b : UInt8}
    (hb : ¬(b = Octet.lineFeed ∨ b = Octet.carriageReturn)) (hback : b ≠ Octet.backslash)
    (h : text.unjoinedFrom c = b :: tail) :
    ∃ joins rest : Bytes, text = joins ++ b :: rest ∧ rest.unjoined = tail
      ∧ (∀ later : Bytes, unjoinedFrom c (joins ++ b :: later) = b :: later.unjoined)
      ∧ ∀ {m : Machine} (r : Reading m), r.joinsLines = true → r.continuation = c → ∀ later,
        r.events (joins ++ b :: later)
          = Reading.events ⟨r.state, r.run ++ joins, .none⟩ (b :: later) := by
  induction text generalizing c with
  | nil => exact absurd h (by simp)
  | cons x text ih =>
    cases hextend : c.extend x with
    | some next =>
      rw [unjoinedFrom_of_extend hextend] at h
      obtain ⟨joins, rest, rfl, hrest, hunjoined, hevents⟩ := ih h
      refine ⟨x :: joins, rest, rfl, hrest, fun later => ?_, fun r hr hc later => ?_⟩
      · rw [List.cons_append, unjoinedFrom_of_extend hextend, hunjoined]
      · rw [List.cons_append, Reading.events_of_extend (hc ▸ hextend),
          hevents ⟨r.state, r.run ++ [x], next⟩ hr rfl, List.append_assoc]
        rfl
    | none =>
      by_cases hx : x = Octet.backslash ∧ Reading.atLineEnd text = true
      · obtain ⟨rfl, hline⟩ := hx
        rw [unjoinedFrom_backslash_cons c hline] at h
        obtain ⟨joins, rest, rfl, hrest, hunjoined, hevents⟩ := ih h
        -- there is a line end behind the backslash, whatever stands behind the octet
        have hlater (later : Bytes) : Reading.atLineEnd (joins ++ b :: later) = true := by
          cases joins with
          | nil => exact absurd (by simpa [Reading.atLineEnd] using hline) hb
          | cons _ joins => exact hline
        refine ⟨_ :: joins, rest, rfl, hrest, fun later => ?_, fun r hr hc later => ?_⟩
        · rw [List.cons_append, unjoinedFrom_backslash_cons c (hlater later), hunjoined]
        · have hjoin := (Reading.Reads.join hr (hlater later)).events_eq
          rw [List.cons_append, hjoin, List.nil_append,
            hevents ⟨r.state, r.run ++ [Octet.backslash], .backslash⟩ hr rfl, List.append_assoc]
          rfl
      · rw [unjoinedFrom_cons hextend hx] at h
        obtain ⟨rfl, hrest⟩ := List.cons.inj h
        refine ⟨[], text, rfl, hrest, fun later => ?_, fun r hr hc later => ?_⟩
        · exact unjoinedFrom_cons hextend fun h => hback h.1
        · rw [List.nil_append, List.append_nil]
          exact Reading.events_of_not_extend (hc ▸ hextend) later

/-- The last octets of a text are those of a longer one but for the last. -/
theorem Bytes.concat_isSuffix_concat {front read : Bytes} {x b : UInt8} :
    front ++ [x] <:+ read ++ [b] ↔ b = x ∧ front <:+ read := by
  rw [List.suffix_concat_iff]
  constructor
  · rintro (hnil | ⟨more, heq, hmore⟩)
    · exact absurd hnil (by simp)
    · obtain ⟨rfl, hlast⟩ := List.append_inj' heq rfl
      exact ⟨(List.singleton_inj.mp hlast).symm, hmore⟩
  · rintro ⟨rfl, hfront⟩
    exact .inr ⟨front, rfl, hfront⟩

/-- What ends a line ends in an octet that does. -/
theorem Bytes.exists_concat_of_mem_lineEnds {text : Bytes} (h : text ∈ lineEnds) :
    ∃ front b, text = front ++ [b] ∧ (b = Octet.lineFeed ∨ b = Octet.carriageReturn) := by
  rcases List.eq_nil_or_concat text with rfl | ⟨front, b, rfl⟩
  · exact absurd h (by decide)
  · rw [List.concat_eq_append] at h ⊢
    have hb : b ∈ front ++ [b] := List.mem_append_right front List.mem_cons_self
    exact ⟨front, b, rfl, eq_or_eq_of_mem_lineEnds h hb⟩

/-! ### XML -/

namespace Xml

/-- The token in a comment. -/
def comments : List Token := [.comment, .commentDash, .commentDashes]

/-- The token in a comment of which some octets are read behind the opener. -/
def inComment (read : Bytes) : Token :=
  if Bytes.ascii "--" <:+ read then .commentDashes
  else if Bytes.ascii "-" <:+ read then .commentDash
  else .comment

theorem inComment_concat (read : Bytes) (b : UInt8) :
    inComment (read ++ [b]) = if b = '-'.toUInt8 then
        if Bytes.ascii "-" <:+ read then .commentDashes else .commentDash
      else .comment := by
  have htwo : Bytes.ascii "--" <:+ read ++ [b] ↔ b = '-'.toUInt8 ∧ Bytes.ascii "-" <:+ read := by
    show Bytes.ascii "-" ++ ['-'.toUInt8] <:+ read ++ [b] ↔ _
    exact Bytes.concat_isSuffix_concat
  have hone : Bytes.ascii "-" <:+ read ++ [b] ↔ b = '-'.toUInt8 := by
    show [] ++ ['-'.toUInt8] <:+ read ++ [b] ↔ _
    simp [eq_comm]
  rw [inComment]
  simp only [htwo, hone]
  by_cases hb : b = '-'.toUInt8
  · by_cases hread : Bytes.ascii "-" <:+ read <;> simp [hb, hread]
  · simp [hb]

theorem inComment_mem (read : Bytes) : inComment read ∈ comments := by
  unfold inComment
  split
  · decide
  · split <;> decide

/-- An octet that does not end the comment goes on it. -/
theorem step_inComment (inTag : Bool) {read : Bytes} {b : UInt8}
    (h : ¬Bytes.ascii "-->" <:+ read ++ [b]) :
    State.step ⟨inTag, inComment read⟩ b = .shift ⟨inTag, inComment (read ++ [b])⟩ := by
  rw [inComment_concat, inComment]
  by_cases htwo : Bytes.ascii "--" <:+ read
  · have hone : Bytes.ascii "-" <:+ read :=
      (show Bytes.ascii "-" <:+ Bytes.ascii "--" by decide).trans htwo
    have hb : b ≠ '>'.toUInt8 := by
      rintro rfl
      exact h (Bytes.concat_isSuffix_concat.mpr ⟨rfl, htwo⟩)
    simp only [State.step, htwo, hone, if_true, if_neg hb]
  · by_cases hone : Bytes.ascii "-" <:+ read <;>
      simp only [State.step, htwo, hone, if_true, if_false]

/-- The octet that ends in the terminator completes it. -/
theorem step_inComment_of_isSuffix (inTag : Bool) {read : Bytes} {b : UInt8}
    (h : Bytes.ascii "-->" <:+ read ++ [b]) :
    State.step ⟨inTag, inComment read⟩ b = .accept ⟨false, .complete .comment⟩ := by
  have hends : b = '>'.toUInt8 ∧ Bytes.ascii "--" <:+ read := Bytes.concat_isSuffix_concat.mp h
  rw [inComment, if_pos hends.2, State.step]
  exact if_pos hends.1

/-- A line end leaves nothing of the terminator. -/
theorem newline_inComment (read : Bytes) {text : Bytes} (h : text ∈ Bytes.lineEnds) :
    (inComment read).newline = inComment (read ++ text) := by
  obtain ⟨front, b, rfl, hb⟩ := Bytes.exists_concat_of_mem_lineEnds h
  have hdash : b ≠ '-'.toUInt8 := by
    rcases hb with rfl | rfl <;> decide
  have hnewline : ∀ token ∈ comments, token.newline = .comment := by decide
  rw [← List.append_assoc, inComment_concat, if_neg hdash, hnewline _ (inComment_mem read)]

/-- A comment goes on to the first `-->`, and is an error without one. -/
theorem encloses_comment :
    machine.Encloses (fun read s => s.token = inComment read) (Bytes.ascii "-->")
      Kind.comment Kind.error where
  isIdle_eq {read s} hs := by
    have hall : ∀ token ∈ comments, (token == .idle) = false := by decide
    exact hall s.token (hs ▸ inComment_mem read)
  spansNewline_eq {read s} hs := by
    have hall : ∀ token ∈ comments, token.spansNewline = true := by decide
    exact hall s.token (hs ▸ inComment_mem read)
  isEscaping_eq _ := rfl
  kind_eq {read s} hs := by
    have hall : ∀ token ∈ comments, token.kind = .comment := by decide
    exact hall s.token (hs ▸ inComment_mem read)
  finish_eq {read s} hs := by
    have hall : ∀ token ∈ comments, token.finalKind = .error := by decide
    exact hall s.token (hs ▸ inComment_mem read)
  shift {read s b} hs h := by
    obtain ⟨inTag, token⟩ := s
    obtain rfl : token = inComment read := hs
    exact ⟨⟨inTag, inComment (read ++ [b])⟩, step_inComment inTag h, rfl⟩
  accept {read s b} hs h := by
    obtain ⟨inTag, token⟩ := s
    obtain rfl : token = inComment read := hs
    exact ⟨⟨false, .complete .comment⟩, step_inComment_of_isSuffix inTag h, rfl⟩
  newline {read s text} hs h := by
    show s.token.newline = _
    rw [hs]
    exact newline_inComment read h
  isLine := by decide

end Xml

/-! ### C and C++ -/

namespace Cpp

/-- The state in a block comment of which some octets are read behind the opener. -/
def inComment (read : Bytes) : State :=
  if Bytes.ascii "*" <:+ read then .blockCommentStar else .blockComment

theorem inComment_concat (read : Bytes) (b : UInt8) :
    inComment (read ++ [b]) = if b = '*'.toUInt8 then .blockCommentStar else .blockComment := by
  have hone : Bytes.ascii "*" <:+ read ++ [b] ↔ b = '*'.toUInt8 := by
    show [] ++ ['*'.toUInt8] <:+ read ++ [b] ↔ _
    simp [eq_comm]
  rw [inComment]
  simp only [hone]

theorem isBlockComment_inComment (read : Bytes) : (inComment read).isBlockComment = true := by
  unfold inComment
  split <;> rfl

/-- An octet that does not end the comment goes on it. -/
theorem step_inComment {read : Bytes} {b : UInt8} (h : ¬Bytes.ascii "*/" <:+ read ++ [b]) :
    (inComment read).step b = .shift (inComment (read ++ [b])) := by
  rw [inComment_concat, inComment]
  by_cases hone : Bytes.ascii "*" <:+ read
  · have hb : b ≠ '/'.toUInt8 := by
      rintro rfl
      exact h (Bytes.concat_isSuffix_concat.mpr ⟨rfl, hone⟩)
    simp only [State.step, hone, if_true, if_neg hb]
  · simp only [State.step, hone, if_false]

/-- The octet that ends in the terminator completes it. -/
theorem step_inComment_of_isSuffix {read : Bytes} {b : UInt8}
    (h : Bytes.ascii "*/" <:+ read ++ [b]) :
    (inComment read).step b = .accept (.complete .comment) := by
  have hends : b = '/'.toUInt8 ∧ Bytes.ascii "*" <:+ read := Bytes.concat_isSuffix_concat.mp h
  rw [inComment, if_pos hends.2, State.step]
  exact if_pos hends.1

/-- A line end leaves nothing of the terminator. -/
theorem newline_inComment (read : Bytes) {text : Bytes} (h : text ∈ Bytes.lineEnds) :
    (inComment read).newline = inComment (read ++ text) := by
  obtain ⟨front, b, rfl, hb⟩ := Bytes.exists_concat_of_mem_lineEnds h
  have hstar : b ≠ '*'.toUInt8 := by
    rcases hb with rfl | rfl <;> decide
  rw [← List.append_assoc, inComment_concat, if_neg hstar, inComment]
  split <;> rfl

/-- A block comment goes on to the first `*/`, and is a comment without one. -/
theorem encloses_comment (style : Style) :
    (machine style).Encloses (fun read s => s = inComment read) (Bytes.ascii "*/")
      Kind.comment Kind.comment where
  isIdle_eq {read s} hs := by
    rw [hs, inComment]
    split <;> rfl
  spansNewline_eq {read s} hs := hs ▸ isBlockComment_inComment read
  isEscaping_eq {read s} hs := by
    rw [hs, inComment]
    split <;> rfl
  kind_eq {read s} hs := by
    rw [hs, inComment]
    split <;> rfl
  finish_eq {read s} hs := State.finalKind_blockComment style (hs ▸ isBlockComment_inComment read)
  shift {read s b} hs h := ⟨inComment (read ++ [b]), hs ▸ step_inComment h, rfl⟩
  accept {read s b} hs h := ⟨.complete .comment, hs ▸ step_inComment_of_isSuffix h, rfl⟩
  newline {read s text} hs h := by
    rw [hs]
    exact newline_inComment read h
  isLine := by decide

end Cpp

/-! ### Comments of an input -/

/-- How a comment goes on that the events begin with: it extends to the first terminator behind its
opener, by the octets that are counted, or to the end of the events if there is none. -/
def Event.EndsComment {κ : Type} (counted : Bytes → Bytes) (opener terminator : Bytes)
    (kind unclosed : κ) (events : List (Event κ)) : Prop :=
  (∃ pieces after body, events = pieces ++ after ∧ IsSpread kind kind pieces
      ∧ counted (source pieces) = opener ++ body ∧ Bytes.EndsAtFirst terminator body
      ∧ (source pieces).getLast? = terminator.getLast?
      ∧ counted (source events) = opener ++ (body ++ counted (source after)))
    ∨ ∃ body, counted (source events) = opener ++ body ∧ ¬terminator <:+: body
      ∧ IsSpread kind unclosed events

/-- A token goes on so of which the opener is read. -/
theorem Reading.IsEnclosed.endsComment (hm : m.IsSteady) {r : Reading m} {terminator opener : Bytes}
    {kind unclosed : m.Kind} {counted : Bytes → Bytes} {input : Bytes} (hr : r.IsSound)
    (hc : r.continuation = .none) (hnone : ∀ later, counted later = m.counted .none later)
    (hopener : ∀ later, counted (r.run ++ later) = opener ++ m.counted .none later)
    (hne : terminator ≠ []) (h : IsEnclosed terminator kind unclosed r [] input) :
    Event.EndsComment counted opener terminator kind unclosed (r.events input) := by
  have hsource := source_events hm hr input
  rcases h with ⟨taken, rest, pieces, rfl, hcloses⟩ | ⟨hopen, hspread⟩
  · obtain ⟨s, -, hevents⟩ := hcloses.events_eq
    have hrest : Event.source (Reading.events ⟨s, [], .none⟩ rest) = rest :=
      source_events hm (isSound_of_run_eq_nil rfl rfl) rest
    have hpieces : Event.source pieces = r.run ++ taken := by
      rw [hevents, Event.source_append, hrest, ← List.append_assoc] at hsource
      exact List.append_cancel_right hsource
    have hcounted := hcloses.counted_eq
    have hends := hcloses.endsAtFirst
    rw [hc] at hcounted hends
    refine .inl ⟨pieces, _, m.counted .none taken, hevents, hcloses.isSpread, ?_, hends, ?_, ?_⟩
    · rw [hpieces, hopener]
    · have htaken : taken ≠ [] := by
        rintro rfl
        exact hne (List.getLast?_eq_none_iff.mp hcloses.getLast?_eq.symm)
      rw [hpieces, List.getLast?_append_of_ne_nil _ htaken, hcloses.getLast?_eq]
    · rw [hsource, hopener, hrest, hcounted, hnone]
  · rw [hc] at hopen
    exact .inr ⟨m.counted .none input, by rw [hsource, hopener], hopen, hspread⟩

theorem Xml.endsComment {buffers : List Bytes} {before later : List (Event machine.Kind)}
    {tail : Bytes} (h : Event.merged (machine.events buffers) = before ++ later)
    (hclosed : Event.isOpenAfter false before = false)
    (hopener : Event.source later = Bytes.ascii "<!--" ++ tail) :
    Event.EndsComment id (Bytes.ascii "<!--") (Bytes.ascii "-->") Kind.comment Kind.error
      later := by
  have hm : machine.IsSteady := Format.isSteady_machine Format.defaultStyle .xml
  obtain ⟨s, hidle, hlater⟩ := Machine.exists_events_eq hm
    (Format.isSteadyOverLines_machine Format.defaultStyle .xml)
    (Format.isIdleOverLines_machine Format.defaultStyle .xml) rfl h hclosed
  obtain ⟨inTag, token⟩ := s
  obtain rfl : token = .idle := eq_of_beq hidle
  have hword : machine.stateAfter? (State.mk inTag .idle) (Bytes.ascii "<!--")
      = some (State.mk inTag .comment) := by
    cases inTag <;> rfl
  have hevents : Reading.events (m := machine) ⟨State.mk inTag .idle, [], .none⟩
      (Bytes.ascii "<!--" ++ tail)
      = Reading.events ⟨State.mk inTag .comment, Bytes.ascii "<!--", .none⟩ tail :=
    Reading.events_of_stateAfter? rfl (by decide) (by decide) hword tail
  rw [hopener, hevents] at hlater
  rw [hlater]
  have hsound : Reading.IsSound (m := machine)
      ⟨State.mk inTag .comment, Bytes.ascii "<!--", .none⟩ :=
    ⟨(nomatch ·), fun hne => absurd rfl hne⟩
  refine Reading.IsEnclosed.endsComment hm hsound rfl (fun _ => rfl) (fun _ => rfl) (by decide)
    (encloses_comment.isEnclosed ?_ ?_ (fun _ => rfl) tail)
  · rfl
  · decide

theorem Cpp.endsComment (style : Style) {buffers : List Bytes}
    {before later : List (Event (machine style).Kind)} {text tail : Bytes}
    (h : Event.merged ((machine style).events buffers) = before ++ later)
    (hclosed : Event.isOpenAfter false before = false)
    (hslash : Event.source later = '/'.toUInt8 :: text)
    (hstar : text.unjoined = '*'.toUInt8 :: tail) :
    Event.EndsComment Bytes.unjoined (Bytes.ascii "/*") (Bytes.ascii "*/") Kind.comment Kind.comment
      later := by
  have hm : (machine style).IsSteady := Format.isSteady_machine style .cpp
  obtain ⟨s, hidle, hlater⟩ := Machine.exists_events_eq hm
    (Format.isSteadyOverLines_machine style .cpp) (Format.isIdleOverLines_machine style .cpp) rfl
    h hclosed
  obtain rfl : s = State.idle := eq_idle_of_isIdle hidle
  obtain ⟨joins, rest, rfl, -, hunjoined, hjoins⟩ :=
    Bytes.exists_of_unjoinedFrom_eq_cons (by decide) (by decide) hstar
  -- behind the `/` and the line continuations, the `*` opens the comment
  have hdivide : Reading.events (m := machine style) ⟨State.idle, [], .none⟩
      ('/'.toUInt8 :: (joins ++ '*'.toUInt8 :: rest))
      = Reading.events ⟨State.divide, ['/'.toUInt8], .none⟩ (joins ++ '*'.toUInt8 :: rest) :=
    Reading.events_of_shift (by decide) (by decide) rfl _
  have hopened : Reading.events (m := machine style)
      ⟨State.divide, '/'.toUInt8 :: joins, .none⟩ ('*'.toUInt8 :: rest)
      = Reading.events ⟨State.blockComment, '/'.toUInt8 :: joins ++ ['*'.toUInt8], .none⟩ rest :=
    Reading.events_of_shift (by decide) (by decide) rfl _
  rw [hslash, hdivide, hjoins _ rfl rfl, List.singleton_append, hopened] at hlater
  rw [hlater]
  have hsound : Reading.IsSound (m := machine style)
      ⟨State.blockComment, '/'.toUInt8 :: joins ++ ['*'.toUInt8], .none⟩ :=
    ⟨(nomatch ·), fun hne => absurd rfl hne⟩
  refine Reading.IsEnclosed.endsComment hm hsound rfl (fun _ => rfl) (fun later => ?_) (by decide)
    ((encloses_comment style).isEnclosed ?_ ?_ (fun _ => rfl) rest)
  · rw [List.append_assoc, List.singleton_append, List.cons_append,
      Bytes.unjoined_cons fun h => absurd h.1 (by decide), Bytes.unjoined, hunjoined]
    rfl
  · rfl
  · decide

/-- Whatever buffers an input comes in, a comment of XML that begins between two tokens extends to
the first `-->` behind its `<!--`, and a block comment of C and C++ to the first `*/` behind its
`/*` when line continuations are left out. The line ends in it count as octets there, and are events
of their own; no piece of a comment has one, but for those of line continuations. Without a
terminator the comment extends to the end of the input, where its last piece is an error in XML
only. -/
theorem Format.comments_end (style : Cpp.Style) :
    (∀ {buffers before later tail}, Event.merged (Xml.machine.events buffers) = before ++ later →
        Event.isOpenAfter false before = false →
        Event.source later = Bytes.ascii "<!--" ++ tail →
        Event.EndsComment id (Bytes.ascii "<!--") (Bytes.ascii "-->") Xml.Kind.comment
            Xml.Kind.error later
          ∧ ∀ event ∈ later, event.IsMadeOf Bytes.IsLine)
      ∧ ∀ {buffers before later text tail},
        Event.merged ((Cpp.machine style).events buffers) = before ++ later →
        Event.isOpenAfter false before = false →
        Event.source later = '/'.toUInt8 :: text → Bytes.unjoined text = '*'.toUInt8 :: tail →
        Event.EndsComment Bytes.unjoined (Bytes.ascii "/*") (Bytes.ascii "*/") Cpp.Kind.comment
            Cpp.Kind.comment later
          ∧ ∀ event ∈ later, event.IsMadeOf Bytes.IsJoined := by
  constructor
  · intro buffers before later tail h hclosed hopener
    refine ⟨Xml.endsComment h hclosed hopener, fun event hevent => ?_⟩
    have hm : Xml.machine.IsSteady := isSteady_machine style .xml
    rw [Xml.machine.merged_events hm] at h
    exact Reading.isLine_events rfl rfl Bytes.isLine_nil buffers.flatten event
      (h ▸ List.mem_append_right before hevent)
  · intro buffers before later text tail h hclosed hslash hstar
    refine ⟨Cpp.endsComment style h hclosed hslash hstar, fun event hevent => ?_⟩
    have hm : (Cpp.machine style).IsSteady := isSteady_machine style .cpp
    rw [(Cpp.machine style).merged_events hm] at h
    exact Reading.isJoined_events buffers.flatten event (h ▸ List.mem_append_right before hevent)

/-- A line end keeps the two parts of a terminator apart, in XML and in C; a line continuation does
not. -/
theorem Format.comments_end_across_lines :
    let xml : List (Event Xml.machine.Kind) :=
      [.token .comment (Bytes.ascii "<!--a--") true, .newline (Bytes.ascii "\n"),
        .token .comment (Bytes.ascii ">-->") false, .token .content (Bytes.ascii "b") false]
    let cpp : List (Event (Cpp.machine defaultStyle).Kind) :=
      [.token .comment (Bytes.ascii "/*/ *") true, .newline (Bytes.ascii "\n"),
        .token .comment (Bytes.ascii "/*\\\n/") false, .token .punctuator (Bytes.ascii ";") false]
    Event.merged (Xml.machine.events [Bytes.ascii "<!--a-", Bytes.ascii "-\n>--", Bytes.ascii ">b"])
        = [] ++ xml
      ∧ Event.EndsComment id (Bytes.ascii "<!--") (Bytes.ascii "-->") Xml.Kind.comment
        Xml.Kind.error xml
      ∧ Event.merged ((Cpp.machine defaultStyle).events
          [Bytes.ascii "/*/ *\n/*\\", Bytes.ascii "\n/;"]) = [] ++ cpp
      ∧ Event.EndsComment Bytes.unjoined (Bytes.ascii "/*") (Bytes.ascii "*/") Cpp.Kind.comment
        Cpp.Kind.comment cpp := by
  intro xml cpp
  have hxml : Event.merged (Xml.machine.events
      [Bytes.ascii "<!--a-", Bytes.ascii "-\n>--", Bytes.ascii ">b"]) = [] ++ xml := by decide
  have hcpp : Event.merged ((Cpp.machine defaultStyle).events
      [Bytes.ascii "/*/ *\n/*\\", Bytes.ascii "\n/;"]) = [] ++ cpp := by decide
  have hopener : Event.source xml = Bytes.ascii "<!--" ++ Bytes.ascii "a--\n>-->b" := by decide
  have hslash : Event.source cpp = '/'.toUInt8 :: Bytes.ascii "*/ *\n/*\\\n/;" := by decide
  have hstar : Bytes.unjoined (Bytes.ascii "*/ *\n/*\\\n/;")
      = '*'.toUInt8 :: Bytes.ascii "/ *\n/*/;" := by decide
  exact ⟨hxml, ((comments_end defaultStyle).1 hxml rfl hopener).1, hcpp,
    ((comments_end defaultStyle).2 hcpp rfl hslash hstar).1⟩

end MarkupFeed
