import MarkupFeed.Proofs.Format.NumberEnds
import MarkupFeed.Proofs.Text.Decoding

/-!
# The words of C and C++ and their kinds

While a word is read, the machine has kept its octets, or knows them by its state
(`State.Records`), so that it is the octets of the token, no more and no fewer, that are looked up
when it ends. A word begins with a letter or `_` and has no separator in it, for the first one ends
it (`isWord_of_ends`). Its kind says whether it is among the keywords and, if not, whether it is a
text that follows the naming style (`kinds_of_classify`): `Cpp.words_classified`.
-/

namespace MarkupFeed.Cpp

/-- The kinds of words. -/
def wordKinds : List Kind := [.keyword, .booleanLiteral, .identifier, .unstyledIdentifier]

/-- The keywords that are literals. -/
def booleans : List String := ["true", "false"]

/-- Whether the octets are those of a word: they begin with a letter or `_`, and no separator is
among them. -/
structure IsWord (word : Bytes) : Prop where
  head : ∃ b rest, word = b :: rest ∧ (Octet.isLetter b = true ∨ b = '_'.toUInt8)
  forall_mem : ∀ b ∈ word, isSeparator b = false

theorem isSeparator_of_isLetter {b : UInt8} :
    Octet.isLetter b = true ∨ b = '_'.toUInt8 → isSeparator b = false := by
  decide +revert

theorem isWord_singleton {b : UInt8} (h : Octet.isLetter b = true ∨ b = '_'.toUInt8) :
    IsWord [b] :=
  ⟨⟨b, [], rfl, h⟩, List.forall_mem_singleton.mpr (isSeparator_of_isLetter h)⟩

theorem IsWord.concat {word : Bytes} (h : IsWord word) {b : UInt8} (hb : isSeparator b = false) :
    IsWord (word ++ [b]) := by
  obtain ⟨first, rest, rfl, hfirst⟩ := h.head
  refine ⟨⟨first, rest ++ [b], rfl, hfirst⟩, ?_⟩
  exact List.forall_mem_append.mpr ⟨h.forall_mem, List.forall_mem_singleton.mpr hb⟩

/-! ### What is kept of a word -/

namespace State

/-- What the state says of the octets of the token in progress. -/
def Records (octets : Bytes) : State → Prop
  | idle => octets = []
  | identifier word => word = octets ∧ IsWord octets
  | wide => octets = ['L'.toUInt8]
  | intSuffix kind => kind ∈ numberKinds
  | complete _ => False
  | _ => True

variable {s : State} {octets : Bytes}

theorem isWord_wide : IsWord ['L'.toUInt8] := isWord_singleton (by decide)

theorem records_lead (b : UInt8) : (lead b).Shifts (Records [b]) := by
  simp only [lead, Bool.or_eq_true, beq_iff_eq, Step.shifts_ite, Step.shifts_shift,
    Step.shifts_accept, Records]
  simp +contextual [isWord_singleton]

theorem shifts_records (h : s.Records octets) (b : UInt8) :
    (s.step b).Shifts (Records (octets ++ [b])) := by
  cases s with
  | idle =>
    obtain rfl : octets = [] := h
    exact records_lead b
  | identifier word =>
    obtain ⟨rfl, hword⟩ := h
    rw [step, Step.shifts_ite]
    exact ⟨fun _ => Step.shifts_reject, fun hb => ⟨rfl, hword.concat (Bool.eq_false_iff.mpr hb)⟩⟩
  | wide =>
    obtain rfl : octets = ['L'.toUInt8] := h
    simp only [step, Step.shifts_ite, Step.shifts_shift, Step.shifts_reject, Records]
    refine ⟨fun _ => trivial, fun _ => ⟨fun _ => trivial, fun _ => ⟨fun _ => trivial, ?_⟩⟩⟩
    exact fun hb => ⟨rfl, isWord_wide.concat (Bool.eq_false_iff.mpr hb)⟩
  | complete kind => exact absurd h id
  | universal quote missing => cases missing <;> grind [step, fail, Records, Step.Shifts]
  | _ =>
    grind [step, fail, endNumber, inInteger, toFloat?, acceptAmong, inQuotes, inEscape, Records,
      Step.Shifts, kind, numberKinds]

/-- What is kept of a token that ends as a word is the word. -/
theorem classify_of_records {style : Style} (h : s.Records octets)
    (hkind : s.finalKind style ∈ wordKinds) :
    IsWord octets ∧ s.finalKind style = classify style octets
      ∧ ∀ b next, s.step b = .reject next → isSeparator b = true := by
  cases s with
  | identifier word =>
    obtain ⟨rfl, hword⟩ := h
    refine ⟨hword, rfl, fun b next hstep => ?_⟩
    grind [step]
  | wide =>
    obtain rfl : octets = ['L'.toUInt8] := h
    refine ⟨isWord_wide, rfl, fun b next hstep => ?_⟩
    grind [step]
  | intSuffix kind =>
    have hnumber : ∀ kind ∈ numberKinds, kind ∉ wordKinds := by decide
    exact absurd hkind (hnumber kind h)
  | complete kind => exact absurd h id
  | _ => exact absurd hkind (by simp [finalKind, kind, wordKinds])

end State

section Ends

variable {style : Style} {kind : (machine style).Kind} {word rest : Bytes}

/-- A token that is a word has its kind by the octets of it, and ends in front of a separator or a
line end, or at the end of the input. -/
theorem isWord_of_ends (h : (machine style).Ends State.idle word kind rest)
    (hkind : kind ∈ wordKinds) :
    IsWord word ∧ kind = classify style word ∧ IsSeparated rest := by
  have hidle : State.Records [] State.idle := rfl
  have hrecords {s : (machine style).State}
      (hword : (machine style).stateAfter? State.idle word = some s) : State.Records word s :=
    Machine.stateAfter?_tracked (p := fun octets (s : State) => s.Records octets)
      (fun _ _ b hs => State.shifts_records hs b) [] hword hidle
  cases h with
  | accept hword hstep =>
    have hcompleted : ∀ kind ∈ completedKinds, kind ∉ wordKinds := by decide
    exact absurd hkind (hcompleted _ (State.finalKind_of_accept style hstep))
  | @reject word rest b s next hword hbusy hstep =>
    have hfinal : State.finalKind style next = State.finalKind style s :=
      State.finalKind_of_reject style hstep
    have hmem : State.finalKind style s ∈ wordKinds := hfinal ▸ hkind
    obtain ⟨hisWord, hclassify, hreject⟩ := State.classify_of_records (hrecords hword) hmem
    exact ⟨hisWord, hfinal.trans hclassify, fun c hc => Option.some.inj hc ▸ hreject b next hstep⟩
  | lineEnd hword hbusy hrest =>
    obtain ⟨hisWord, hclassify, -⟩ := State.classify_of_records (hrecords hword) hkind
    exact ⟨hisWord, hclassify, isSeparated_of_atLineEnd hrest⟩
  | refuse hrefused hstep =>
    have herror : Kind.error ∉ wordKinds := by decide
    exact absurd hkind herror

end Ends

/-! ### The kinds of words -/

/-- What is looked up for a word: whether it is a keyword, and one of the two literals among them;
and if it is none, whether it is a text that follows the style. -/
theorem kinds_of_classify (style : Style) (word : Bytes) :
    (classify style word = .booleanLiteral ↔ word ∈ booleans.map Utf8.encode)
      ∧ (classify style word = .keyword
        ↔ word ∈ keywords.map Utf8.encode ∧ word ∉ booleans.map Utf8.encode)
      ∧ (classify style word = .identifier
        ↔ word ∉ keywords.map Utf8.encode ∧ ∃ name, word = Utf8.encode name ∧ style name = true)
      ∧ (classify style word = .unstyledIdentifier
        ↔ word ∉ keywords.map Utf8.encode
          ∧ ¬∃ name, word = Utf8.encode name ∧ style name = true) := by
  unfold classify
  cases hdecode : Utf8.decode? word with
  | none =>
    have hnone : ∀ text, word ≠ Utf8.encode text := fun text htext =>
      absurd (Utf8.decode?_eq_some_iff.mpr htext) (by simp [hdecode])
    have hnot : ∀ texts : List String, word ∉ texts.map Utf8.encode := fun texts hmem => by
      obtain ⟨text, -, htext⟩ := List.mem_map.mp hmem
      exact hnone text htext.symm
    simp [hnone, hnot]
  | some text =>
    obtain rfl := Utf8.decode?_eq_some_iff.mp hdecode
    have hmem : ∀ texts : List String,
        Utf8.encode text ∈ texts.map Utf8.encode ↔ text ∈ texts := fun texts =>
      List.mem_map_of_injective Utf8.encode_injective
    have hstyle : (∃ name, Utf8.encode text = Utf8.encode name ∧ style name = true)
        ↔ style text = true := by
      constructor
      · rintro ⟨name, hname, h⟩
        exact Utf8.encode_injective hname ▸ h
      · exact fun h => ⟨text, rfl, h⟩
    have hbooleans : text ∈ booleans ↔ text = "true" ∨ text = "false" := by simp [booleans]
    have hkeywords : text ∈ booleans → text ∈ keywords := by
      rw [hbooleans]
      rintro (rfl | rfl) <;> decide
    simp only [hmem, hstyle]
    by_cases hkeyword : text ∈ keywords
    · by_cases hboolean : text ∈ booleans
      · simp [hkeyword, hboolean, hbooleans.mp hboolean]
      · simp [hkeyword, hboolean, mt hbooleans.mpr hboolean]
    · cases style text <;> simp [hkeyword, mt hkeywords hkeyword]

/-! ### Words of an input -/

/-- Whatever buffers an input comes in, a token of it that is a word begins, line continuations
apart, with a letter or `_`, has no separator in it, and ends in front of a separator or a line end,
or at the end of the input. Its kind is that of these octets. -/
theorem words_classified (style : Style) {buffers : List Bytes} {before after : List (Event Kind)}
    {kind : Kind} {text : Bytes}
    (h : Event.merged ((machine style).events buffers)
      = before ++ .token kind text false :: after)
    (hkind : kind ∈ wordKinds) :
    let word := text.unjoined
    buffers.flatten = Event.source before ++ (text ++ Event.source after)
      ∧ IsWord word
      ∧ IsSeparated (Event.source after)
      ∧ (kind = .booleanLiteral ↔ word ∈ booleans.map Utf8.encode)
      ∧ (kind = .keyword ↔ word ∈ keywords.map Utf8.encode ∧ word ∉ booleans.map Utf8.encode)
      ∧ (kind = .identifier
        ↔ word ∉ keywords.map Utf8.encode ∧ ∃ name, word = Utf8.encode name ∧ style name = true)
      ∧ (kind = .unstyledIdentifier
        ↔ word ∉ keywords.map Utf8.encode
          ∧ ¬∃ name, word = Utf8.encode name ∧ style name = true) := by
  intro word
  have hm : (machine style).IsSteady := Format.isSteady_machine style .cpp
  obtain ⟨first, hfirst, hends⟩ := Machine.exists_ends hm h
  have hcomment : kind ≠ .comment := by
    rintro rfl
    exact absurd hkind (by decide)
  obtain ⟨hword, hclassify, hseparated⟩ :=
    isWord_of_ends (ends_idle hfirst hends hcomment) hkind
  refine ⟨Machine.flatten_eq_of_token hm h, hword, hseparated, ?_⟩
  rw [show kind = classify style word from hclassify]
  exact kinds_of_classify style word

/-- A keyword with a line continuation in it, cut in two buffers, and a word that is none. -/
theorem words_classified_joined :
    let buffers := [Bytes.ascii "whi\\", Bytes.ascii "\nle+L1"]
    let after := [.token .operator (Bytes.ascii "+") false,
      .token .unstyledIdentifier (Bytes.ascii "L1") false]
    Event.merged ((machine Format.defaultStyle).events buffers)
        = [] ++ .token .keyword (Bytes.ascii "whi\\\nle") false :: after
      ∧ Bytes.ascii "while" ∈ keywords.map Utf8.encode
      ∧ IsSeparated (Event.source after) := by
  intro buffers after
  have h : Event.merged ((machine Format.defaultStyle).events buffers)
      = [] ++ .token .keyword (Bytes.ascii "whi\\\nle") false :: after := by decide
  obtain ⟨-, -, hseparated, -, hkeyword, -⟩ := words_classified Format.defaultStyle h (by decide)
  exact ⟨h, (hkeyword.mp rfl).1, hseparated⟩

end MarkupFeed.Cpp
