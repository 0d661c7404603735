import MarkupFeed.Proofs.Format.Resuming
import MarkupFeed.Proofs.Tokenizer.Spelling

/-!
# Tokens that go on to the first terminator behind their opener

In such a token the state of the machine goes with what it has read behind the opener
(`Machine.Encloses`): the octet with which this ends in the terminator for the first time completes
the token, and every other octet and every line end goes on it. What the machine reads are the
octets of the input, without those of line continuations if it joins lines (`Machine.counted`). A
step of a reading adds to them in front of whatever the token comes to
(`Reading.IsEnclosed.prepend`), so that the token extends to the first terminator, or to the end of
the input if there is none (`Machine.Encloses.isEnclosed`).
-/

namespace MarkupFeed

variable {m : Machine}

/-- Whether the terminator stands at the end of the text, and nowhere before. -/
def Bytes.EndsAtFirst (terminator text : Bytes) : Prop :=
  terminator <:+ text ∧ ¬terminator <:+: text.dropLast

instance (terminator text : Bytes) : Decidable (Bytes.EndsAtFirst terminator text) :=
  inferInstanceAs (Decidable (terminator <:+ text ∧ ¬terminator <:+: text.dropLast))

/-- The pieces of one token and the line ends between them: fragments with octets, all of one kind,
and a last piece with a kind of its own. -/
inductive Event.IsSpread {κ : Type} (kind last : κ) : List (Event κ) → Prop
  | last (text : Bytes) : IsSpread kind last [.token last text false]
  | fragment {text : Bytes} {rest : List (Event κ)} (htext : text ≠ [])
      (hrest : IsSpread kind last rest) : IsSpread kind last (.token kind text true :: rest)
  | newline (text : Bytes) {rest : List (Event κ)} (hrest : IsSpread kind last rest) :
      IsSpread kind last (.newline text :: rest)

namespace Machine

/-- What a text counts for in the middle of a token: its octets, without those of line continuations
if the machine joins lines. -/
def counted (m : Machine) (c : Continuation) (text : Bytes) : Bytes :=
  if m.continuesLines then text.unjoinedFrom c else text

/-- A machine that is inside a token, of which some octets are read, goes on to where these end in
the terminator. The token is of one kind then, and of another one if the input ends before. -/
structure Encloses (m : Machine) (inside : Bytes → m.State → Prop) (terminator : Bytes)
    (kind unclosed : m.Kind) : Prop where
  isIdle_eq : ∀ {read s}, inside read s → m.isIdle s = false
  spansNewline_eq : ∀ {read s}, inside read s → m.spansNewline s = true
  isEscaping_eq : ∀ {read s}, inside read s → m.isEscaping s = false
  kind_eq : ∀ {read s}, inside read s → m.kind s = kind
  finish_eq : ∀ {read s}, inside read s → (m.finish s).1 = unclosed
  shift : ∀ {read s b}, inside read s → ¬terminator <:+ read ++ [b] →
    ∃ next, m.step s b = .shift next ∧ inside (read ++ [b]) next
  accept : ∀ {read s b}, inside read s → terminator <:+ read ++ [b] →
    ∃ next, m.step s b = .accept next ∧ (m.finish next).1 = kind
  newline : ∀ {read s text}, inside read s → text ∈ Bytes.lineEnds →
    inside (read ++ text) (m.newline s)
  /-- No line end completes the terminator. -/
  isLine : terminator.IsLine

end Machine

/-! ### What is counted -/

namespace Reading

open Machine (counted)

variable {r r' : Reading m} {b : UInt8} {text rest later : Bytes} {c : Continuation}

@[simp] theorem counted_nil (m : Machine) (c : Continuation) : m.counted c [] = [] := by
  simp [counted]

theorem atLineEnd_congr (h : later.head? = rest.head?) : atLineEnd later = atLineEnd rest := by
  rw [atLineEnd, atLineEnd, h]

theorem counted_extend (hm : m.continuesLines = true) {next : Continuation}
    (h : c.extend b = some next) (later : Bytes) :
    m.counted c (b :: later) = m.counted next later := by
  rw [counted, counted, if_pos hm, if_pos hm, Bytes.unjoinedFrom_of_extend h]

/-- Where no line continuation goes on, an octet counts that begins none. -/
theorem counted_cons (h : c.extend b = none)
    (hb : m.continuesLines = true → ¬(b = Octet.backslash ∧ atLineEnd later = true)) :
    m.counted c (b :: later) = b :: m.counted .none later := by
  unfold counted
  split
  · next hm => exact Bytes.unjoinedFrom_cons h (hb hm)
  · rfl

theorem counted_join (hm : m.continuesLines = true) (h : atLineEnd later = true) :
    m.counted c (Octet.backslash :: later) = m.counted .backslash later := by
  rw [counted, counted, if_pos hm, if_pos hm, Bytes.unjoinedFrom_backslash_cons c h]

theorem counted_lineEnd (htext : text ∈ Bytes.lineEnds) (h : ∀ b ∈ text.head?, c.extend b = none)
    (later : Bytes) : m.counted c (text ++ later) = text ++ m.counted .none later := by
  simp only [Bytes.lineEnds, List.mem_cons, List.not_mem_nil, or_false] at htext
  rcases htext with rfl | rfl | rfl
  · exact counted_cons (h _ rfl) fun _ hb => absurd hb.1 (by decide)
  · exact counted_cons (h _ rfl) fun _ hb => absurd hb.1 (by decide)
  · show m.counted c (Octet.carriageReturn :: Octet.lineFeed :: later) = _
    rw [counted_cons (h _ rfl) fun _ hb => absurd hb.1 (by decide),
      counted_cons rfl fun _ hb => absurd hb.1 (by decide)]
    rfl

/-! ### Up to the terminator -/

/-- The input closes a token of which some octets are read: its pieces are those of a part of the
input, in which the terminator occurs for the first time and at the end. -/
structure ClosesWith (r : Reading m) (terminator : Bytes) (kind : m.Kind)
    (read taken rest : Bytes) (pieces : List (Event m.Kind)) : Prop where
  events_eq : ∃ s, m.isIdle s = true
    ∧ r.events (taken ++ rest) = pieces ++ events ⟨s, [], .none⟩ rest
  isSpread : Event.IsSpread kind kind pieces
  counted_eq : m.counted r.continuation (taken ++ rest)
    = m.counted r.continuation taken ++ m.counted .none rest
  endsAtFirst : Bytes.EndsAtFirst terminator (read ++ m.counted r.continuation taken)
  getLast?_eq : taken.getLast? = terminator.getLast?

/-- What becomes of a token of which some octets are read: the first terminator closes it, or the
end of the input does. -/
def IsEnclosed (terminator : Bytes) (kind unclosed : m.Kind) (r : Reading m)
    (read input : Bytes) : Prop :=
  (∃ taken rest pieces, input = taken ++ rest ∧ r.ClosesWith terminator kind read taken rest pieces)
    ∨ ¬terminator <:+: read ++ m.counted r.continuation input
      ∧ Event.IsSpread kind unclosed (r.events input)

variable {terminator read : Bytes} {kind unclosed : m.Kind}

/-- What a step reads and gives out comes in front of whatever the token comes to. -/
theorem IsEnclosed.prepend {given : List (Event m.Kind)} (hne : terminator ≠ [])
    (octets counting : Bytes)
    (hcounted : ∀ later : Bytes, later.head? = rest.head? →
      m.counted r.continuation (octets ++ later) = counting ++ m.counted r'.continuation later)
    (hevents : r.events (octets ++ rest) = given ++ r'.events rest)
    (hgiven : ∀ last pieces, Event.IsSpread kind last pieces →
      Event.IsSpread kind last (given ++ pieces))
    (h : IsEnclosed terminator kind unclosed r' (read ++ counting) rest) :
    IsEnclosed terminator kind unclosed r read (octets ++ rest) := by
  rcases h with ⟨taken, rest, pieces, rfl, hcloses⟩ | ⟨hopen, hspread⟩
  · obtain ⟨s, hidle, hmore⟩ := hcloses.events_eq
    have htaken : taken ≠ [] := by
      rintro rfl
      exact hne (List.getLast?_eq_none_iff.mp hcloses.getLast?_eq.symm)
    obtain ⟨first, more, rfl⟩ := List.exists_cons_of_ne_nil htaken
    have hpart := hcounted (first :: more) rfl
    have hwhole := hcounted (first :: more ++ rest) rfl
    refine .inl ⟨octets ++ first :: more, rest, given ++ pieces, (List.append_assoc _ _ _).symm, ?_⟩
    exact {
      events_eq := ⟨s, hidle, by rw [List.append_assoc, hevents, hmore, List.append_assoc]⟩
      isSpread := hgiven _ _ hcloses.isSpread
      counted_eq := by
        rw [List.append_assoc, hwhole, hcloses.counted_eq, hpart, List.append_assoc]
      endsAtFirst := by
        rw [hpart, ← List.append_assoc]
        exact hcloses.endsAtFirst
      getLast?_eq := by
        rw [List.getLast?_append_of_ne_nil _ htaken, hcloses.getLast?_eq] }
  · refine .inr ⟨?_, hevents ▸ hgiven _ _ hspread⟩
    rw [hcounted rest rfl, ← List.append_assoc]
    exact hopen

/-- With the octet that ends in the terminator the token is complete. -/
theorem isEnclosed_of_accept {next : m.State} (hc : r.continuation.extend b = none)
    (hb : m.continuesLines = true → ¬(b = Octet.backslash ∧ atLineEnd rest = true))
    (hstep : m.step r.state b = .accept next) (hkind : (m.finish next).1 = kind)
    (hread : ¬terminator <:+: read) (hends : terminator <:+ read ++ [b])
    (hevents : r.events (b :: rest) = (r.take b).1 ++ (r.take b).2.events rest) :
    IsEnclosed terminator kind unclosed r read (b :: rest) := by
  have hone : m.counted r.continuation [b] = [b] := by
    rw [counted_cons hc fun _ hback => absurd hback.2 (by decide), counted_nil]
  have htake : r.take b = ([.token kind (r.run ++ [b]) false], ⟨(m.finish next).2, [], .none⟩) := by
    rw [take, hstep, ← hkind]
  have hlast : terminator.getLast? = some b := by
    rcases List.suffix_concat_iff.mp hends with rfl | ⟨front, rfl, -⟩
    · exact absurd List.nil_infix hread
    · exact List.getLast?_concat
  refine .inl ⟨[b], rest, [.token kind (r.run ++ [b]) false], rfl, ?_⟩
  exact {
    events_eq := ⟨(m.finish next).2, m.isIdle_finish next, by
      rw [List.singleton_append, hevents, htake]⟩
    isSpread := .last _
    counted_eq := by rw [List.singleton_append, counted_cons hc hb, hone, List.singleton_append]
    endsAtFirst := by
      rw [hone]
      exact ⟨hends, by rwa [List.dropLast_concat]⟩
    getLast?_eq := hlast.symm }

/-- No line end brings the terminator about. -/
theorem not_infix_lineEnd (hline : terminator.IsLine) (hread : ¬terminator <:+: read)
    (htext : ∀ b ∈ text, b = Octet.lineFeed ∨ b = Octet.carriageReturn) :
    ¬terminator <:+: read ++ text := by
  induction text generalizing read with
  | nil => rwa [List.append_nil]
  | cons b text ih =>
    rw [← List.singleton_append, ← List.append_assoc]
    refine ih ?_ fun c hc => htext c (List.mem_cons_of_mem b hc)
    rw [List.infix_concat_iff, List.suffix_concat_iff]
    rintro ((rfl | ⟨front, rfl, -⟩) | hinfix)
    · exact hread List.nil_infix
    · have hb := hline b (List.mem_append_right front List.mem_cons_self)
      exact (htext b List.mem_cons_self).elim hb.1 hb.2
    · exact hread hinfix

end Reading

namespace Machine.Encloses

variable {inside : Bytes → m.State → Prop} {terminator read : Bytes} {kind unclosed : m.Kind}
  {r r' : Reading m}

/-- A step of a reading inside the token closes it, or goes on it. -/
theorem reads (h : m.Encloses inside terminator kind unclosed) (hr : inside read r.state)
    (hread : ¬terminator <:+: read) (hc : m.continuesLines = false → r.continuation = .none)
    {input rest : Bytes} {given : List (Event m.Kind)} (hreads : r.Reads input given r' rest)
    (hlater : ∀ read, inside read r'.state → ¬terminator <:+: read →
      (m.continuesLines = false → r'.continuation = .none) →
      Reading.IsEnclosed terminator kind unclosed r' read rest) :
    Reading.IsEnclosed terminator kind unclosed r read input := by
  have hne : terminator ≠ [] := by
    rintro rfl
    exact hread List.nil_infix
  have hjoins : r.joinsLines = m.continuesLines := by
    simp [Reading.joinsLines, h.isIdle_eq hr, h.isEscaping_eq hr]
  have hevents := hreads.events_eq
  cases hreads with
  | @extend b continuation rest hextend =>
    have hm : m.continuesLines = true := eq_true_of_ne_false fun hfalse => by
      simp [hc hfalse, Continuation.extend] at hextend
    refine .prepend hne [b] [] (fun later _ => ?_) hevents
      (fun _ _ hspread => hspread) ?_
    · exact Reading.counted_extend hm hextend later
    · rw [List.append_nil]
      exact hlater read hr hread fun hfalse => absurd hm (by simp [hfalse])
  | @join rest hjoined hrest =>
    have hm : m.continuesLines = true := hjoins ▸ hjoined
    refine .prepend hne [Octet.backslash] [] (fun later hhead => ?_)
      hevents (fun _ _ hspread => hspread) ?_
    · exact Reading.counted_join hm ((Reading.atLineEnd_congr hhead).trans hrest)
    · rw [List.append_nil]
      exact hlater read hr hread fun hfalse => absurd hm (by simp [hfalse])
  | @lineEnd text rest hend hextend =>
    rw [Reading.lineEnd_of_spans (h.isIdle_eq hr) (h.spansNewline_eq hr)] at hevents hlater
    refine .prepend hne text text (fun later _ => Reading.counted_lineEnd hend.1 hextend later)
      hevents (fun last pieces hspread => ?_) (hlater _ (h.newline hr hend.1)
        (Reading.not_infix_lineEnd h.isLine hread fun _ => Bytes.eq_or_eq_of_mem_lineEnds hend.1)
        fun _ => rfl)
    rw [List.append_assoc, h.kind_eq hr]
    split
    · exact hspread.newline text
    · next hrun => exact .fragment hrun (hspread.newline text)
  | @offer b rest hb hoffered =>
    have hextend := Reading.extend_of_not_lineEnd r.continuation hb
    have hback : m.continuesLines = true →
        ¬(b = Octet.backslash ∧ Reading.atLineEnd rest = true) :=
      fun hm hback => hoffered ⟨hback.1, hjoins.trans hm, hback.2⟩
    by_cases hends : terminator <:+ read ++ [b]
    · obtain ⟨next, hstep, hkind⟩ := h.accept hr hends
      have htake : r.offer b = r.take b := by simp [Reading.offer, hstep]
      rw [htake] at hevents
      exact Reading.isEnclosed_of_accept hextend hback hstep hkind hread hends hevents
    · obtain ⟨next, hstep, hnext⟩ := h.shift hr hends
      have htake : r.offer b = ([], ⟨next, r.run ++ [b], .none⟩) := by
        simp [Reading.offer, Reading.take, hstep]
      rw [htake] at hevents hlater
      refine .prepend hne [b] [b] (fun later hhead => ?_) hevents
        (fun _ _ hspread => hspread) (hlater _ hnext ?_ fun _ => rfl)
      · exact Reading.counted_cons hextend fun hm hlast =>
          hback hm ⟨hlast.1, (Reading.atLineEnd_congr hhead).symm.trans hlast.2⟩
      · exact List.infix_concat_iff.not.mpr (not_or.mpr ⟨hends, hread⟩)

/-- A token that a machine encloses extends to where its octets, behind the opener, end in the
terminator for the first time, or else to the end of the input. -/
theorem isEnclosed (h : m.Encloses inside terminator kind unclosed) (hr : inside read r.state)
    (hread : ¬terminator <:+: read) (hc : m.continuesLines = false → r.continuation = .none)
    (input : Bytes) : Reading.IsEnclosed terminator kind unclosed r read input := by
  induction hlength : input.length using Nat.strongRecOn generalizing r read input with
  | ind n ih =>
    cases input with
    | nil =>
      refine .inr ⟨by rwa [Reading.counted_nil, List.append_nil], ?_⟩
      rw [Reading.events, Reading.ending, h.isIdle_eq hr, ← h.finish_eq hr]
      exact .last r.run
    | cons b input =>
      obtain ⟨given, r', rest, hreads⟩ := r.exists_reads b input
      have hnext : Reading.Place.Next ⟨[], r, b :: input⟩ ⟨[] ++ given, r', rest⟩ := .reads hreads
      exact h.reads hr hread hc hreads fun read hr' hread' hc' =>
        ih _ (hlength ▸ hnext.length_lt) hr' hread' hc' rest rfl

end Machine.Encloses

end MarkupFeed
