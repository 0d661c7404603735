import MarkupFeed.Proofs.Format.MailLines
import MarkupFeed.Proofs.Mailbox.Joining

/-!
# Header lines that begin no field

A line without a proper name is an error up to its colon, and what follows the colons is reported
as a field body (`Mail.exists_lineTokens_headers`). A draft takes a field body for more of the field
in progress, so that the line comes to the same as a folded line (`Draft.observeAll_malformed`). It
does no harm if it has nothing behind its colons, or if no field of its message stands in front of
it; the draft at the start of a line (`Draft.IsAtLine`) shows neither it nor its end then.
`Mailbox.posts_malformed` says all of this of the posts.
-/

namespace MarkupFeed

namespace Mail

/-! ### The tokens of a header line -/

/-- Whether a line begins with a field name and a colon. -/
def isField (line : Bytes) : Bool :=
  line.head? != some ':'.toUInt8
    && (line.dropWhile isFieldNameOctet).head? == some ':'.toUInt8

/-- What a line has behind its first colon and the colons that follow it. A colon at the front of
the line is part of the error there. -/
def behindColons (line : Bytes) : Bytes :=
  (line.tail.dropWhile (· != ':'.toUInt8)).dropWhile (· == ':'.toUInt8)

/-- Whether the message has a field behind a line, given whether it has one in front of it. -/
def hasFieldAfter (hasField : Bool) (line : Bytes) : Bool :=
  !isBreak line && (hasField || isField line)

/-- Whether the message that lines end in has a field. -/
def hasField (lines : List Bytes) : Bool := lines.foldl hasFieldAfter false

/-- A header line that separates no messages, goes on no field and begins none. -/
structure IsMalformed (line : Bytes) : Prop where
  ne_nil : line ≠ []
  isBreak_eq : isBreak line = false
  isFolded_eq : isFolded line = false
  isField_eq : isField line = false

theorem hasFieldAfter_of_not_isBreak {line : Bytes} (h : isBreak line = false) (hasField : Bool) :
    hasFieldAfter hasField line = (hasField || isField line) := by
  rw [hasFieldAfter, h]
  rfl

/-- A header line that is no folded one begins with a field name or an error. -/
theorem exists_lineTokens_headers {line : Bytes} (hne : line ≠ []) (hbreak : isBreak line = false)
    (hfolded : isFolded line = false) :
    ∃ name, lineTokens .headers line
      = .token (if isField line then .fieldName else .error) name false
        :: bodyTokens (line.tail.dropWhile (· != ':'.toUInt8)) := by
  obtain ⟨b, rest, rfl⟩ := List.exists_cons_of_ne_nil hne
  have hblank : Octet.isSpaceOrTab b = false := hfolded
  rw [lineTokens_of_not_isBreak hbreak]
  simp only [hblank, if_neg Bool.false_ne_true]
  rw [nameTokens_eq]
  have hkind : (if (rest.dropWhile isFieldNameOctet).head? = some ':'.toUInt8 then
      if isFieldNameOctet b then Kind.fieldName else .error else .error)
      = if isField (b :: rest) then .fieldName else .error := by
    cases hname : isFieldNameOctet b with
    | false => simp [isField, hname]
    | true => simp [isField, hname, isFieldNameOctet_ne_colon hname]
  exact ⟨_, by rw [hkind]; rfl⟩

theorem IsMalformed.lineMode_eq {line : Bytes} (h : IsMalformed line) :
    lineMode .headers line = .headers := by
  rw [lineMode, List.isEmpty_eq_false_iff.mpr h.ne_nil, h.isBreak_eq]
  rfl

/-- A malformed line does not begin like the second half of a CR LF. -/
theorem IsMalformed.cutsNoLineEnd {line : Bytes} (h : IsMalformed line) (hline : line.IsLine)
    (front rest : Bytes) : front.CutsNoLineEnd (line ++ rest) := by
  obtain ⟨b, more, rfl⟩ := List.exists_cons_of_ne_nil h.ne_nil
  exact fun _ hhead => (hline b List.mem_cons_self).1 (Option.some.inj hhead)

theorem lineMode_folded (text : Bytes) : lineMode .headers (' '.toUInt8 :: text) = .headers := by
  rw [lineMode, isBreak_of_isFolded rfl]
  rfl

theorem isLine_folded {line : Bytes} (hline : line.IsLine) :
    Bytes.IsLine (' '.toUInt8 :: behindColons line) := by
  have hsublist : (behindColons line).Sublist line :=
    ((List.dropWhile_sublist _).trans (List.dropWhile_sublist _)).trans (List.tail_sublist line)
  exact List.forall_mem_cons.mpr ⟨by decide, fun b hb => hline b (hsublist.subset hb)⟩

end Mail

namespace Draft

/-! ### The draft on a header line -/

/-- Goes on the field in progress with what a line has behind its colons, if it has something. -/
def goOn (draft : Draft) (text : Bytes) : Draft :=
  { draft with
    field := if text = [] then draft.field
      else draft.field.map (·.append (Text.trim (Utf8.decodeLossy text))) }

theorem goOn_eq_self {draft : Draft} {text : Bytes} (h : text = [] ∨ draft.field = none) :
    draft.goOn text = draft := by
  obtain ⟨piece, field, headers, inBody, lines, line, hasToken⟩ := draft
  rcases h with hnil | hnone
  · rw [goOn, if_pos hnil]
  · rw [goOn, show field = none from hnone, Option.map_none, ite_self]

theorem isSome_field_goOn (draft : Draft) (text : Bytes) :
    (draft.goOn text).field.isSome = draft.field.isSome := by
  unfold goOn
  dsimp only
  split
  · rfl
  · exact Option.isSome_map

theorem observeAll_token {draft : Draft} (hpiece : draft.piece = []) (kind : Mail.Kind)
    (text : Bytes) :
    draft.observeAll [.token kind text false]
      = ({ draft with hasToken := true } : Draft).take kind (Utf8.decodeLossy text) := by
  rw [observeAll_cons, observe_token hpiece]
  exact Prod.ext rfl (List.append_nil _)

/-- Only a field body changes the draft behind the colon. -/
theorem observeAll_bodyTokens {draft : Draft} (hpiece : draft.piece = [])
    (htoken : draft.hasToken = true) (text : Bytes) :
    draft.observeAll (Mail.bodyTokens text)
      = (draft.goOn (text.dropWhile (· == ':'.toUInt8)), []) := by
  obtain ⟨piece, field, headers, inBody, lines, line, hasToken⟩ := draft
  subst hpiece htoken
  induction text with
  | nil => rfl
  | cons b rest ih =>
    rw [Mail.bodyTokens]
    by_cases hb : b = ':'.toUInt8
    · rw [if_pos hb, observeAll_cons, List.dropWhile_cons_of_pos (by simp [hb])]
      exact (congrArg (fun r : Draft × List Post => (r.1, [] ++ r.2)) ih)
    · rw [if_neg hb, List.dropWhile_cons_of_neg (by simp [hb])]
      rfl

/-- What a header line in place of a field comes to: at most more of the field in progress. -/
theorem observeAll_malformed {draft : Draft} (hpiece : draft.piece = []) {line : Bytes}
    (h : Mail.IsMalformed line) :
    draft.observeAll (Mail.lineTokens .headers line)
      = (({ draft with hasToken := true } : Draft).goOn (Mail.behindColons line), []) := by
  obtain ⟨name, htokens⟩ := Mail.exists_lineTokens_headers h.ne_nil h.isBreak_eq h.isFolded_eq
  have herror : draft.observe (.token .error name false)
      = ({ draft with hasToken := true }, []) := observe_token hpiece _ _
  have hnext : ({ draft with hasToken := true } : Draft).piece = [] := hpiece
  rw [htokens, h.isField_eq, if_neg Bool.false_ne_true, observeAll_cons, herror,
    observeAll_bodyTokens hnext rfl]
  rfl

/-- A folded line is trimmed, so that the blank in front of it does not show. -/
theorem trim_decodeLossy_space (text : Bytes) :
    Text.trim (Utf8.decodeLossy (' '.toUInt8 :: text)) = Text.trim (Utf8.decodeLossy text) := by
  have hdecode : Utf8.decodeChars (' '.toUInt8 :: text) = ' ' :: Utf8.decodeChars text :=
    Utf8.decodeChars_encode_append " " text
  rw [Utf8.decodeLossy, Utf8.decodeLossy, Text.trim, Text.trim, String.toList_ofList,
    String.toList_ofList, hdecode, Text.trimChars_cons (by decide)]

/-- A line that begins with a space goes on the field in progress. -/
theorem observeAll_folded {draft : Draft} (hpiece : draft.piece = []) {text : Bytes}
    (hne : text ≠ []) :
    draft.observeAll (Mail.lineTokens .headers (' '.toUInt8 :: text))
      = (({ draft with hasToken := true } : Draft).goOn text, []) := by
  have hread := (Mail.isReadAs_lineTokens .headers (' '.toUInt8 :: text)).fieldBody rfl rfl
  rw [hread, observeAll_cons, observe_token hpiece, take, trim_decodeLossy_space, goOn,
    if_neg hne]
  rfl

/-- A field line ends the field before it and begins its own. -/
theorem exists_observeAll_field {draft : Draft} (hpiece : draft.piece = []) {line : Bytes}
    (hne : line ≠ []) (hbreak : Mail.isBreak line = false) (hfolded : Mail.isFolded line = false)
    (hfield : Mail.isField line = true) :
    ∃ field headers, draft.observeAll (Mail.lineTokens .headers line)
      = (({ draft with field := some field, headers, hasToken := true } : Draft).goOn
          (Mail.behindColons line), []) := by
  obtain ⟨name, htokens⟩ := Mail.exists_lineTokens_headers hne hbreak hfolded
  obtain ⟨field, headers, hobserve⟩ : ∃ field headers,
      draft.observe (.token .fieldName name false)
        = ({ draft with field := some field, headers, hasToken := true }, []) := by
    rw [observe_token hpiece, take, endField]
    cases draft.field <;> exact ⟨_, _, rfl⟩
  have hnext :
      ({ draft with field := some field, headers, hasToken := true } : Draft).piece = [] := hpiece
  refine ⟨field, headers, ?_⟩
  rw [htokens, hfield, if_pos rfl, observeAll_cons, hobserve, observeAll_bodyTokens hnext rfl]
  rfl

/-! ### The draft at the start of a line -/

/-- A draft in front of a line that starts in a mode. In the headers there is no body yet, and there
is a field in progress only if the message has one. -/
structure IsAtLine (draft : Draft) (mode : Mail.Mode) (hasField : Bool) : Prop where
  piece_eq : draft.piece = []
  hasToken_eq : draft.hasToken = false
  inBody : draft.inBody = true → mode = .body
  field : draft.field.isSome = true → hasField = true

variable {draft : Draft} {mode : Mail.Mode} {hasField : Bool}

theorem isAtLine_default (mode : Mail.Mode) (hasField : Bool) :
    ({} : Draft).IsAtLine mode hasField :=
  ⟨rfl, rfl, fun h => absurd h (by decide), fun h => absurd h (by decide)⟩

/-- Behind a line with tokens, the draft is as they leave it. -/
theorem isAtLine_newline (hpiece : draft.piece = []) (htoken : draft.hasToken = true)
    (hbody : draft.inBody = true → mode = .body)
    (hfield : draft.field.isSome = true → hasField = true) :
    draft.newline.IsAtLine mode hasField := by
  obtain ⟨piece, field, headers, inBody, lines, line, hasToken⟩ := draft
  subst hpiece htoken
  cases inBody with
  | true => exact ⟨rfl, rfl, hbody, hfield⟩
  | false => exact ⟨rfl, rfl, hbody, hfield⟩

/-- An empty line begins the body. -/
theorem IsAtLine.newline (h : draft.IsAtLine mode hasField) :
    draft.newline.IsAtLine .body hasField := by
  obtain ⟨piece, field, headers, inBody, lines, line, hasToken⟩ := draft
  obtain ⟨rfl, rfl, hbody, hfield⟩ := h
  cases inBody with
  | true => exact ⟨rfl, rfl, fun _ => rfl, hfield⟩
  | false =>
    cases field with
    | none => cases headers <;> exact ⟨rfl, rfl, fun _ => rfl, hfield⟩
    | some field => exact ⟨rfl, rfl, fun _ => rfl, fun _ => hfield rfl⟩

theorem takeLine_fst (draft : Draft) (mode : Mail.Mode) (line : Bytes) :
    (draft.takeLine mode line).1
      = (draft.observeAll (Mail.lineTokens mode line)).1.newline := by
  rw [takeLine, observeAll_append]
  rfl

/-- A line of a body has no fields. -/
theorem IsAtLine.takeLine_body {line : Bytes} (h : draft.IsAtLine .body hasField) (hne : line ≠ [])
    (hbreak : Mail.isBreak line = false) :
    (draft.takeLine .body line).1.IsAtLine .body (hasField || Mail.isField line) := by
  have hread := (Mail.isReadAs_lineTokens .body line).messageBody rfl hne
    (mt List.isPrefixOf_iff_prefix.mpr (Bool.eq_false_iff.mp hbreak))
  rw [takeLine_fst, hread, observeAll_token h.piece_eq]
  refine isAtLine_newline ?_ rfl (fun _ => rfl) fun hsome => Bool.or_eq_true_iff.mpr (.inl ?_)
  · exact h.piece_eq
  · exact h.field hsome

/-- A header line goes on a field, begins one or is malformed. -/
theorem IsAtLine.takeLine_headers {line : Bytes} (h : draft.IsAtLine .headers hasField)
    (hne : line ≠ []) (hbreak : Mail.isBreak line = false) :
    (draft.takeLine .headers line).1.IsAtLine .headers (hasField || Mail.isField line) := by
  rw [takeLine_fst]
  cases hfolded : Mail.isFolded line with
  | true =>
    have hread := (Mail.isReadAs_lineTokens .headers line).fieldBody rfl hfolded
    rw [hread, observeAll_token h.piece_eq]
    refine isAtLine_newline ?_ rfl h.inBody fun hsome => Bool.or_eq_true_iff.mpr (.inl ?_)
    · exact h.piece_eq
    · exact h.field (Option.isSome_map.symm.trans hsome)
  | false =>
    cases hfield : Mail.isField line with
    | true =>
      obtain ⟨field, headers, hline⟩ :=
        exists_observeAll_field h.piece_eq hne hbreak hfolded hfield
      rw [hline]
      refine isAtLine_newline ?_ rfl h.inBody fun _ => Bool.or_true hasField
      exact h.piece_eq
    | false =>
      rw [observeAll_malformed h.piece_eq ⟨hne, hbreak, hfolded, hfield⟩]
      refine isAtLine_newline ?_ rfl h.inBody fun hsome => Bool.or_eq_true_iff.mpr (.inl ?_)
      · exact h.piece_eq
      · exact h.field ((isSome_field_goOn _ _).symm.trans hsome)

theorem IsAtLine.takeLine (h : draft.IsAtLine mode hasField) (line : Bytes) :
    (draft.takeLine mode line).1.IsAtLine (Mail.lineMode mode line)
      (Mail.hasFieldAfter hasField line) := by
  cases hbreak : Mail.isBreak line with
  | true =>
    rw [takeLine_break draft mode hbreak]
    exact isAtLine_default _ _
  | false =>
    rw [Mail.hasFieldAfter_of_not_isBreak hbreak]
    by_cases hne : line = []
    · have hnewline := h.newline
      rw [← Bool.or_false hasField] at hnewline
      rw [hne]
      exact hnewline
    · have hmode : Mail.lineMode mode line = mode := by
        rw [Mail.lineMode, List.isEmpty_eq_false_iff.mpr hne, hbreak]
        rfl
      rw [hmode]
      cases mode with
      | body => exact h.takeLine_body hne hbreak
      | headers => exact h.takeLine_headers hne hbreak

/-- Complete lines leave the draft at the start of a line. -/
theorem IsAtLine.observeAll_eventsFrom (h : draft.IsAtLine mode hasField) {input : Bytes}
    (hinput : input.EndsLines) :
    (draft.observeAll (Mail.eventsFrom mode input)).1.IsAtLine (Mail.modeAfter mode input)
      (input.lines.foldl Mail.hasFieldAfter hasField) := by
  induction input using Bytes.line_induction generalizing draft mode hasField with
  | last text htext =>
    rw [hinput.eq_nil htext]
    exact h
  | line text ending rest htext hend ih =>
    rw [Mail.eventsFrom_lineEnd mode htext hend, List.append_cons, observeAll_append,
      ← takeLine_eq, Mail.modeAfter, Bytes.lines_lineEnd htext hend]
    exact ih (h.takeLine text) hinput.of_append.of_append

/-! ### A line put for another one -/

variable {line ending rest : Bytes}

/-- Lines whose tokens come to the same may stand for each other. -/
theorem gather_congr_line {other : Bytes} (hline : line.IsLine) (hother : other.IsLine)
    (htokens : draft.observeAll (Mail.lineTokens mode line)
      = draft.observeAll (Mail.lineTokens mode other))
    (hmode : Mail.lineMode mode line = Mail.lineMode mode other)
    (hend : Reading.EndsLine ending rest ∨ ending ++ rest = []) :
    draft.gather (Mail.eventsFrom mode (line ++ (ending ++ rest)))
      = draft.gather (Mail.eventsFrom mode (other ++ (ending ++ rest))) := by
  rcases hend with hend | hnil
  · rw [gather_lineEnd draft mode hline hend, gather_lineEnd draft mode hother hend, takeLine,
      takeLine, observeAll_append, observeAll_append, htokens, hmode]
  · rw [hnil, List.append_nil, List.append_nil, Mail.eventsFrom_lastLine mode hline,
      Mail.eventsFrom_lastLine mode hother, gather, gather, htokens]

/-- A header line whose tokens change nothing may be left out. -/
theorem IsAtLine.gather_skip_line (h : draft.IsAtLine .headers hasField) (hline : line.IsLine)
    (htokens : draft.observeAll (Mail.lineTokens .headers line)
      = ({ draft with hasToken := true }, []))
    (hmode : Mail.lineMode .headers line = .headers)
    (hend : Reading.EndsLine ending rest ∨ ending ++ rest = []) :
    draft.gather (Mail.eventsFrom .headers (line ++ (ending ++ rest)))
      = draft.gather (Mail.eventsFrom .headers rest) := by
  rcases hend with hend | hnil
  · have hline' : draft.takeLine .headers line = (draft, []) := by
      obtain ⟨piece, field, headers, inBody, lines, text, hasToken⟩ := draft
      obtain ⟨rfl, rfl, hbody, -⟩ := h
      -- the line end takes back that the line has a token
      cases inBody with
      | true => exact absurd (hbody rfl) (by decide)
      | false =>
        rw [Draft.takeLine, observeAll_append, htokens]
        rfl
    rw [gather_lineEnd draft .headers hline hend, hline', hmode, List.nil_append]
  · have hrest : rest = [] := (List.append_eq_nil_iff.mp hnil).2
    have hlast : draft.gather [] = draft.endMessage.2 := rfl
    have hclosed := congrArg Prod.snd (endMessage_token draft)
    rw [← h.piece_eq] at hclosed
    rw [hnil, List.append_nil, Mail.eventsFrom_lastLine .headers hline, gather, htokens, hrest,
      Mail.eventsFrom_lastLine .headers Bytes.isLine_nil]
    exact hclosed

end Draft

namespace Mailbox

/-! ### Malformed lines in a mailbox -/

/-- A malformed header line does no harm if it has nothing behind its colons, or if no field of its
message stands in front of it. Else what it has behind its colons is read as a folded line of the
field in front of it. -/
theorem posts_malformed {front line ending rest : Bytes} (hfront : front.EndsLines)
    (hmode : Mail.modeAfter .headers front = .headers) (hline : line.IsLine)
    (hmalformed : Mail.IsMalformed line)
    (hend : Reading.EndsLine ending rest ∨ ending ++ rest = [])
    (hcut : front.CutsNoLineEnd rest) :
    (Mail.behindColons line = [] →
        posts (front ++ (line ++ (ending ++ rest))) = posts (front ++ rest))
      ∧ (Mail.hasField front.lines = false →
        posts (front ++ (line ++ (ending ++ rest))) = posts (front ++ rest))
      ∧ (Mail.behindColons line ≠ [] →
        posts (front ++ (line ++ (ending ++ rest)))
          = posts (front ++ (' '.toUInt8 :: Mail.behindColons line ++ (ending ++ rest)))) := by
  have hat := (Draft.isAtLine_default .headers false).observeAll_eventsFrom hfront
  rw [hmode] at hat
  have htokens := Draft.observeAll_malformed hat.piece_eq hmalformed
  have hheaders := hmalformed.lineMode_eq
  -- in front of the line the input is read the same, whatever stands in its place
  have hposts : ∀ later, front.CutsNoLineEnd later → posts (front ++ later)
      = (({} : Draft).observeAll (Mail.eventsFrom .headers front)).2
        ++ (({} : Draft).observeAll (Mail.eventsFrom .headers front)).1.gather
          (Mail.eventsFrom .headers later) := by
    intro later hlater
    rw [posts_eq_gather, Mail.eventsFrom_append_of_endsLines hfront hlater, hmode,
      Draft.gather_append]
  have hskip : (Mail.behindColons line = [] ∨ Mail.hasField front.lines = false) →
      posts (front ++ (line ++ (ending ++ rest))) = posts (front ++ rest) := by
    intro h
    rw [hposts _ (hmalformed.cutsNoLineEnd hline front _), hposts _ hcut]
    rw [Draft.goOn_eq_self] at htokens
    · rw [hat.gather_skip_line hline htokens hheaders hend]
    · refine h.imp_right fun hnone => ?_
      rw [← Option.not_isSome_iff_eq_none]
      exact fun hsome => absurd (hat.field hsome) (by simpa [Mail.hasField] using hnone)
  refine ⟨fun h => hskip (.inl h), fun h => hskip (.inr h), fun hne => ?_⟩
  have hfolded := Draft.observeAll_folded hat.piece_eq hne
  have hspace : front.CutsNoLineEnd (' '.toUInt8 :: Mail.behindColons line ++ (ending ++ rest)) :=
    fun _ hhead => absurd (Option.some.inj hhead) (by decide)
  rw [hposts _ (hmalformed.cutsNoLineEnd hline front _), hposts _ hspace,
    Draft.gather_congr_line hline (Mail.isLine_folded hline) (htokens.trans hfolded.symm)
      (hheaders.trans (Mail.lineMode_folded _).symm) hend]

/-- A name with letters that field names do not have, behind the title. -/
theorem posts_malformed_name :
    let front := Bytes.ascii "From a\nSubject: x\n"
    let line := Utf8.encode "Gr\u00f6\u00dfe: y"
    let rest := Bytes.ascii "\nbody\n"
    front.EndsLines ∧ Mail.modeAfter .headers front = .headers ∧ line.IsLine
      ∧ Mail.IsMalformed line ∧ Reading.EndsLine [Octet.lineFeed] rest ∧ front.CutsNoLineEnd rest
      ∧ Mail.behindColons line = Bytes.ascii " y"
      ∧ posts (front ++ (line ++ ([Octet.lineFeed] ++ rest)))
        = posts (front ++ (Bytes.ascii "  y" ++ ([Octet.lineFeed] ++ rest))) := by
  intro front line rest
  have hfront : front.EndsLines := by
    intro b hb
    exact .inl (Option.some.inj hb).symm
  have hmode : Mail.modeAfter .headers front = .headers := by decide +kernel
  have hline : line.IsLine := by
    unfold Bytes.IsLine
    decide +kernel
  have hmalformed : Mail.IsMalformed line :=
    ⟨by decide +kernel, by decide +kernel, by decide +kernel, by decide +kernel⟩
  have hend : Reading.EndsLine [Octet.lineFeed] rest := Reading.endsLine_lineFeed rest
  have hcut : front.CutsNoLineEnd rest := fun hlast => absurd hlast (by decide)
  have htext : Mail.behindColons line = Bytes.ascii " y" := by decide +kernel
  have hposts := (posts_malformed hfront hmode hline hmalformed (.inl hend) hcut).2.2
    (by rw [htext]; decide)
  rw [htext] at hposts
  exact ⟨hfront, hmode, hline, hmalformed, hend, hcut, htext, hposts⟩

/-- The title has taken up what stands behind the colon of a malformed line, and is another one
without that line. -/
theorem title_absorbs_malformed :
    let front := Bytes.ascii "From a\nSubject: x\n"
    let line := Utf8.encode "Gr\u00f6\u00dfe: y"
    let rest := Bytes.ascii "\nbody\n"
    Mail.IsMalformed line
      ∧ (posts (front ++ (line ++ ([Octet.lineFeed] ++ rest)))).map (·.title) = ["x y"]
      ∧ (posts (front ++ rest)).map (·.title) = ["x"] := by
  refine ⟨⟨?_, ?_, ?_, ?_⟩, ?_, ?_⟩ <;> decide +kernel

end Mailbox

end MarkupFeed
