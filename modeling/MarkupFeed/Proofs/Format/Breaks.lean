import MarkupFeed.Proofs.Format.Mail
import Mathlib.Data.List.Infix

/-!
# Texts that separate messages when they are read as mail

LF, CR and CR LF all end a line of mail, so a text separates messages where it begins with `From `,
and where an LF or a CR of it is followed by `From ` (`HasBreak`). `reaches_text` says that nothing
else does: without such a place, the events of a text have no message break among them, whatever
mode it is read in.
-/

namespace MarkupFeed.Mail

/-! ### Events that separate messages -/

/-- Whether the event is a piece of a line between two messages. -/
def isBreakEvent : Event Kind → Bool
  | .token .messageBreak _ _ => true
  | _ => false

theorem isBreakEvent_bodyTokens (text : Bytes) :
    ∀ event ∈ bodyTokens text, isBreakEvent event = false := by
  fun_induction bodyTokens text with
  | case1 => exact List.forall_mem_nil _
  | case2 rest ih => exact List.forall_mem_cons.mpr ⟨rfl, ih⟩
  | case3 b rest hb => exact List.forall_mem_singleton.mpr rfl

theorem isBreakEvent_nameTokens {kind : Kind} (hkind : kind ≠ .messageBreak) (name text : Bytes) :
    ∀ event ∈ nameTokens kind name text, isBreakEvent event = false := by
  fun_induction nameTokens kind name text with
  | case1 kind name => exact List.forall_mem_singleton.mpr rfl
  | case2 kind name rest =>
    refine List.forall_mem_cons.mpr ⟨?_, List.forall_mem_cons.mpr ⟨rfl, ?_⟩⟩
    · cases kind <;> first | rfl | exact absurd rfl hkind
    · exact isBreakEvent_bodyTokens rest
  | case3 kind name b rest hb ih =>
    refine ih ?_
    split
    · exact hkind
    · decide

/-- Only the line between two messages is such an event. -/
theorem isBreakEvent_lineTokens (mode : Mode) {line : Bytes} (h : isBreak line = false) :
    ∀ event ∈ lineTokens mode line, isBreakEvent event = false := by
  cases line with
  | nil => exact List.forall_mem_nil _
  | cons b rest =>
    rw [lineTokens_cons, h, if_neg Bool.false_ne_true]
    cases mode with
    | body => exact List.forall_mem_singleton.mpr rfl
    | headers =>
      dsimp only
      split
      · exact List.forall_mem_singleton.mpr rfl
      · refine isBreakEvent_nameTokens ?_ [b] rest
        split <;> decide

/-! ### Reading up to a place of the input -/

/-- An input that is read from a mode on comes to its last part `rest`; and if it is `quiet`, no
line between messages is passed on the way. -/
def Reaches (mode : Mode) (input rest : Bytes) (quiet : Prop) : Prop :=
  ∃ events next, eventsFrom mode input = events ++ eventsFrom next rest
    ∧ (quiet → ∀ event ∈ events, isBreakEvent event = false)

namespace Reaches

variable {mode : Mode} {input rest : Bytes} {quiet : Prop}

theorem refl (mode : Mode) (rest : Bytes) (quiet : Prop) : Reaches mode rest rest quiet :=
  ⟨[], mode, rfl, fun _ => List.forall_mem_nil _⟩

theorem trans {middle : Bytes} (h : Reaches mode input middle quiet)
    (hrest : ∀ mode, Reaches mode middle rest quiet) : Reaches mode input rest quiet := by
  obtain ⟨events, next, hevents, hquiet⟩ := h
  obtain ⟨more, last, hmore, hquiet'⟩ := hrest next
  refine ⟨events ++ more, last, ?_, ?_⟩
  · rw [hevents, hmore, List.append_assoc]
  · exact fun hq => List.forall_mem_append.mpr ⟨hquiet hq, hquiet' hq⟩

theorem mono {loud : Prop} (h : Reaches mode input rest quiet) (himp : loud → quiet) :
    Reaches mode input rest loud := by
  obtain ⟨events, next, hevents, hquiet⟩ := h
  exact ⟨events, next, hevents, fun hl => hquiet (himp hl)⟩

/-- The line in front is read first. -/
theorem line {text ending : Bytes} (htext : text.IsLine) (hend : Reading.EndsLine ending input)
    (hbreak : quiet → isBreak text = false) (h : Reaches (lineMode mode text) input rest quiet) :
    Reaches mode (text ++ (ending ++ input)) rest quiet := by
  obtain ⟨events, next, hevents, hquiet⟩ := h
  refine ⟨lineTokens mode text ++ .newline ending :: events, next, ?_, ?_⟩
  · rw [eventsFrom_lineEnd mode htext hend, hevents, List.append_assoc, List.cons_append]
  · intro hq
    refine List.forall_mem_append.mpr ⟨isBreakEvent_lineTokens mode (hbreak hq), ?_⟩
    exact List.forall_mem_cons.mpr ⟨rfl, hquiet hq⟩

end Reaches

/-! ### Texts -/

/-- The octets of a text. -/
def octets (text : List Char) : Bytes := Utf8.encode (String.ofList text)

theorem octets_append (text more : List Char) :
    octets (text ++ more) = octets text ++ octets more := by
  rw [octets, String.ofList_append, Utf8.encode_append]
  rfl

/-- Whether a line of the text separates messages, where an LF and a CR both end a line. -/
def HasBreak (text : List Char) : Prop :=
  "From ".toList <+: text ∨ "\rFrom ".toList <:+: text ∨ "\nFrom ".toList <:+: text

theorem HasBreak.of_line {line : List Char} (h : "From ".toList <+: line) (more : List Char) :
    HasBreak (line ++ more) :=
  .inl (h.trans (List.prefix_append _ _))

theorem HasBreak.of_rest {c : Char} (hc : c = '\r' ∨ c = '\n') (line : List Char)
    {rest : List Char} (h : HasBreak rest) : HasBreak (line ++ c :: rest) := by
  have hrest : rest <:+: line ++ c :: rest :=
    (List.suffix_append_of_suffix (List.suffix_cons c rest)).isInfix
  rcases h with hstart | hpart | hpart
  · -- the line end in front of the rest is the one that counts
    have hend : c :: "From ".toList <:+: line ++ c :: rest :=
      (List.prefix_cons_inj c |>.mpr hstart).isInfix.trans (List.suffix_append _ _).isInfix
    rcases hc with rfl | rfl
    · exact .inr (.inl hend)
    · exact .inr (.inr hend)
  · exact .inr (.inl (hpart.trans hrest))
  · exact .inr (.inr (hpart.trans hrest))

/-- A text is a line, or it has a first one. -/
theorem exists_line (text : List Char) :
    Text.IsLine text ∨ ∃ line c rest, text = line ++ c :: rest ∧ Text.IsLine line
      ∧ (c = '\r' ∨ c = '\n') := by
  induction text with
  | nil => exact .inl Text.isLine_nil
  | cons c rest ih =>
    by_cases hc : c = '\r' ∨ c = '\n'
    · exact .inr ⟨[], c, rest, rfl, Text.isLine_nil, hc⟩
    · have hchar : c ≠ '\n' ∧ c ≠ '\r' := ⟨fun h => hc (.inr h), fun h => hc (.inl h)⟩
      rcases ih with hline | ⟨line, d, more, rfl, hline, hd⟩
      · exact .inl (List.forall_mem_cons.mpr ⟨hchar, hline⟩)
      · exact .inr ⟨c :: line, d, more, rfl, List.forall_mem_cons.mpr ⟨hchar, hline⟩, hd⟩

/-- The octets of a text up to one of its characters, and those behind it. -/
theorem octets_append_cons (line : List Char) (c : Char) (more : List Char) (rest : Bytes) :
    octets (line ++ c :: more) ++ rest = octets line ++ (octets [c] ++ (octets more ++ rest)) := by
  rw [List.append_cons, octets_append, octets_append, List.append_assoc, List.append_assoc]

theorem isLine_octets {line : List Char} (h : Text.IsLine line) : Bytes.IsLine (octets line) := by
  refine Utf8.isLine_encode ?_
  rwa [String.toList_ofList]

/-- A line separates messages only if its text does. -/
theorem isBreak_octets {line : List Char} (h : ¬"From ".toList <+: line) :
    isBreak (octets line) = false := by
  have hbreak := isBreak_encode (String.ofList line)
  have htext : (String.ofList line).toList = line := String.toList_ofList
  rw [htext] at hbreak
  rw [octets, hbreak, ← Bool.not_eq_true]
  exact fun hstart => h (List.isPrefixOf_iff_prefix.mp hstart)

/-- Only an LF has the octet of one in front. -/
theorem head?_octets_ne {c : Char} (hc : c ≠ '\n') (more : List Char) (rest : Bytes) :
    (octets (c :: more) ++ rest).head? ≠ some Octet.lineFeed := by
  intro hhead
  have hoctets : octets (c :: more) = String.utf8EncodeChar c ++ octets more := by
    rw [← List.singleton_append, octets_append, octets, Utf8.encode, String.toList_ofList]
    simp
  have hmem : Octet.lineFeed ∈ String.utf8EncodeChar c := by
    rw [hoctets, List.append_assoc] at hhead
    cases hchar : String.utf8EncodeChar c with
    | nil => exact absurd hchar (by simp)
    | cons b others =>
      rw [hchar] at hhead
      exact Option.some.inj hhead ▸ List.mem_cons_self
  have hcode : c.toNat = '\n'.toNat := Utf8.eq_of_mem_utf8EncodeChar hmem (by decide)
  exact hc (Char.toNat_inj.mp hcode)

/-- A text that ends with an LF is read to its end. A message break is passed on the way only if the
text has one. -/
theorem reaches_text (mode : Mode) (text : List Char) (rest : Bytes) :
    Reaches mode (octets text ++ Octet.lineFeed :: rest) rest (¬HasBreak text) := by
  induction hlength : text.length using Nat.strong_induction_on generalizing mode text with
  | _ n ih =>
    rcases exists_line text with hline | ⟨line, c, more, rfl, hline, hc⟩
    · have hbreak : ¬HasBreak text → isBreak (octets text) = false :=
        fun h => isBreak_octets fun hstart => h (.inl hstart)
      exact .line (isLine_octets hline) (Reading.endsLine_lineFeed rest) hbreak (.refl _ _ _)
    · have hbreak : ¬HasBreak (line ++ c :: more) → isBreak (octets line) = false :=
        fun h => isBreak_octets fun hstart => h (.of_line hstart _)
      -- what is left behind the first line is shorter, and separates messages only if the text does
      have hleft : ∀ tail : List Char, tail.length ≤ more.length →
          (HasBreak tail → HasBreak (line ++ c :: more)) → ∀ mode,
          Reaches mode (octets tail ++ Octet.lineFeed :: rest) rest
            (¬HasBreak (line ++ c :: more)) := by
        intro tail htail himp mode
        have hlt : tail.length < n := by
          rw [← hlength, List.length_append, List.length_cons]
          omega
        exact (ih _ hlt mode tail rfl).mono fun h ht => h (himp ht)
      rcases hc with rfl | rfl
      · cases more with
        | nil =>
          -- the CR and the LF behind the text are one line end
          have hend : Reading.EndsLine [Octet.carriageReturn, Octet.lineFeed] rest :=
            ⟨by simp [Bytes.lineEnds], fun h => absurd h (by decide)⟩
          rw [octets_append_cons]
          exact @Reaches.line _ _ _ _ _ [Octet.carriageReturn, Octet.lineFeed]
            (isLine_octets hline) hend hbreak (.refl _ _ _)
        | cons d more =>
          by_cases hd : d = '\n'
          · subst hd
            have hend : Reading.EndsLine [Octet.carriageReturn, Octet.lineFeed]
                (octets more ++ Octet.lineFeed :: rest) :=
              ⟨by simp [Bytes.lineEnds], fun h => absurd h (by decide)⟩
            have hmore : HasBreak more → HasBreak (line ++ '\r' :: '\n' :: more) := fun h =>
              .of_rest (.inl rfl) line (.of_rest (.inr rfl) [] h)
            rw [octets_append_cons, ← List.nil_append ('\n' :: more), octets_append_cons]
            exact @Reaches.line _ _ _ _ _ [Octet.carriageReturn, Octet.lineFeed]
              (isLine_octets hline) hend hbreak (hleft more (by simp) hmore _)
          · have hend : Reading.EndsLine [Octet.carriageReturn]
                (octets (d :: more) ++ Octet.lineFeed :: rest) :=
              ⟨by simp [Bytes.lineEnds], fun _ => head?_octets_ne hd _ _⟩
            rw [octets_append_cons]
            exact .line (isLine_octets hline) hend hbreak
              (hleft (d :: more) (Nat.le_refl _) (.of_rest (.inl rfl) line) _)
      · rw [octets_append_cons]
        exact .line (isLine_octets hline) (Reading.endsLine_lineFeed _) hbreak
          (hleft more (Nat.le_refl _) (.of_rest (.inr rfl) line) _)

/-- Texts that end with an LF each are read to the end of the last one. -/
theorem reaches_texts (mode : Mode) (texts : List (List Char)) (rest : Bytes) :
    Reaches mode ((texts.flatMap fun text => octets text ++ [Octet.lineFeed]) ++ rest) rest
      (∀ text ∈ texts, ¬HasBreak text) := by
  induction texts generalizing mode with
  | nil => exact .refl _ _ _
  | cons text texts ih =>
    rw [List.flatMap_cons, List.append_assoc, List.append_assoc, List.singleton_append]
    refine Reaches.trans ((reaches_text mode text _).mono fun h => h text List.mem_cons_self) ?_
    exact fun mode => (ih mode).mono fun h text htext => h text (List.mem_cons_of_mem _ htext)

end MarkupFeed.Mail
