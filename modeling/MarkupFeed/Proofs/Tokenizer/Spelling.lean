import MarkupFeed.Proofs.Tokenizer.Coverage
import MarkupFeed.Proofs.Tokenizer.Joining
import MarkupFeed.Proofs.Tokenizer.Words

/-!
# What the machine has read of a token, and why the token ends

A token holds the line continuations that were read in the middle of it. Without them
(`Bytes.unjoined`) it is a word that the machine has gone through octet by octet, from a state that
a token begins in (`Machine.Begins`, `Machine.stateAfter?`). It ends in one of four ways
(`Machine.Ends`): with an octet that completes it, in front of one that is none of it, at the end of
a line or of the input, or as a single octet that was refused between tokens. A reading keeps the
word of the token in progress at every step (`Reading.Spells`), so that all of this holds of every
token of an input: `Machine.exists_ends`.
-/

namespace MarkupFeed

variable {m : Machine}

/-! ### Texts without line continuations -/

/-- No octet but the backslash itself begins a line continuation. -/
theorem Continuation.extend_ne_backslash {c next : Continuation} {b : UInt8}
    (h : c.extend b = some next) : next ≠ .backslash := by
  cases c <;> grind [Continuation.extend]

namespace Bytes

open Reading (atLineEnd)

/-- The rest of a text without its line continuations, from the middle of one on. -/
def unjoinedFrom : Continuation → Bytes → Bytes
  | _, [] => []
  | c, b :: rest =>
    match c.extend b with
    | some next => unjoinedFrom next rest
    | none =>
      if b = Octet.backslash ∧ atLineEnd rest then unjoinedFrom .backslash rest
      else b :: unjoinedFrom .none rest

/-- A text without its line continuations: each backslash directly in front of a line end is left
out, together with that line end. -/
def unjoined (text : Bytes) : Bytes := unjoinedFrom .none text

example : unjoined (ascii "1\\\r\n2\\3\\\\\n\n") = ascii "12\\3\\\n" := by decide

variable {c : Continuation} {b : UInt8} {rest : Bytes}

@[simp] theorem unjoinedFrom_nil (c : Continuation) : unjoinedFrom c [] = [] := by
  cases c <;> rfl

@[simp] theorem unjoined_nil : unjoined [] = [] := rfl

theorem unjoinedFrom_of_extend {next : Continuation} (h : c.extend b = some next) :
    unjoinedFrom c (b :: rest) = unjoinedFrom next rest := by
  rw [unjoinedFrom]
  simp only [h]

theorem unjoinedFrom_backslash_cons (c : Continuation) (h : atLineEnd rest = true) :
    unjoinedFrom c (Octet.backslash :: rest) = unjoinedFrom .backslash rest := by
  have hnone := Reading.extend_of_not_lineEnd c (b := Octet.backslash) (by decide)
  rw [unjoinedFrom]
  simp only [hnone]
  exact if_pos ⟨trivial, h⟩

theorem unjoinedFrom_cons (hextend : c.extend b = none)
    (h : ¬(b = Octet.backslash ∧ atLineEnd rest = true)) :
    unjoinedFrom c (b :: rest) = b :: unjoined rest := by
  rw [unjoinedFrom]
  simp only [hextend]
  exact if_neg h

theorem unjoined_backslash_cons (h : atLineEnd rest = true) :
    unjoined (Octet.backslash :: rest) = unjoinedFrom .backslash rest :=
  unjoinedFrom_backslash_cons .none h

theorem unjoined_cons (h : ¬(b = Octet.backslash ∧ atLineEnd rest = true)) :
    unjoined (b :: rest) = b :: unjoined rest :=
  unjoinedFrom_cons rfl h

/-- Without a line end in front, nothing of the text is left of a line continuation. -/
theorem unjoinedFrom_of_not_atLineEnd (c : Continuation) (h : atLineEnd rest = false) :
    unjoinedFrom c rest = unjoined rest := by
  cases rest with
  | nil => rw [unjoinedFrom_nil, unjoined_nil]
  | cons b rest =>
    have hb : ¬(b = Octet.lineFeed ∨ b = Octet.carriageReturn) := by
      simpa [atLineEnd] using h
    rw [unjoined, unjoinedFrom, unjoinedFrom, Reading.extend_of_not_lineEnd c hb,
      Reading.extend_of_not_lineEnd .none hb]

/-- A text without line ends has no line continuations. -/
theorem unjoined_of_isLine {text : Bytes} (h : text.IsLine) : text.unjoined = text := by
  induction text with
  | nil => exact unjoined_nil
  | cons b text ih =>
    have htext : IsLine text := (List.forall_mem_cons.mp h).2
    rw [unjoined_cons fun hback => by simp [Reading.atLineEnd_of_isLine htext] at hback, ih htext]

end Bytes

/-! ### Where a token begins and ends -/

namespace Machine

/-- The state in which a word leaves the machine, if all its octets go on one token. -/
def stateAfter? (m : Machine) : m.State → Bytes → Option m.State
  | s, [] => some s
  | s, b :: rest =>
    match m.step s b with
    | .shift next => m.stateAfter? next rest
    | .accept _ | .reject _ => none

theorem stateAfter?_append (s : m.State) (word more : Bytes) :
    m.stateAfter? s (word ++ more)
      = (m.stateAfter? s word).bind fun next => m.stateAfter? next more := by
  induction word generalizing s with
  | nil => rfl
  | cons b rest ih =>
    rw [List.cons_append, stateAfter?, stateAfter?]
    cases m.step s b with
    | shift next => exact ih next
    | accept next => rfl
    | reject next => rfl

/-- Every octet of a word goes on the token, from the state that the octets before it lead to. -/
theorem exists_shift_of_stateAfter? {s t : m.State} {front back : Bytes} {b : UInt8}
    (h : m.stateAfter? s (front ++ b :: back) = some t) :
    ∃ u next, m.stateAfter? s front = some u ∧ m.step u b = .shift next := by
  rw [stateAfter?_append, Option.bind_eq_some_iff] at h
  obtain ⟨u, hfront, hback⟩ := h
  rw [stateAfter?] at hback
  cases hstep : m.step u b with
  | shift next => exact ⟨u, next, hfront, hstep⟩
  | accept next => exact absurd (hstep ▸ hback) (by simp)
  | reject next => exact absurd (hstep ▸ hback) (by simp)

/-- One more octet that goes on the token. -/
theorem stateAfter?_concat {s t next : m.State} {word : Bytes} {b : UInt8}
    (h : m.stateAfter? s word = some t) (hstep : m.step t b = .shift next) :
    m.stateAfter? s (word ++ [b]) = some next := by
  rw [stateAfter?_append, h, Option.bind_some, stateAfter?]
  simp only [hstep, stateAfter?]

/-- What every octet that goes on a token keeps, given the octets before it, is kept by a word. -/
theorem stateAfter?_tracked {p : Bytes → m.State → Prop}
    (hstep : ∀ front s b, p front s → (m.step s b).Shifts (p (front ++ [b]))) (front : Bytes)
    {word : Bytes} {s t : m.State} (h : m.stateAfter? s word = some t) (hs : p front s) :
    p (front ++ word) t := by
  induction word generalizing front s with
  | nil =>
    rw [List.append_nil]
    exact Option.some.inj h ▸ hs
  | cons b rest ih =>
    have hnext := hstep front s b hs
    rw [stateAfter?] at h
    cases hcase : m.step s b with
    | shift next =>
      rw [hcase] at h hnext
      rw [← List.singleton_append, ← List.append_assoc]
      exact ih (front ++ [b]) h hnext
    | accept next =>
      rw [hcase] at h
      exact absurd h (by simp)
    | reject next =>
      rw [hcase] at h
      exact absurd h (by simp)

/-- What every octet that goes on a token keeps is kept by a word. -/
theorem stateAfter?_kept {p : m.State → Prop} (hstep : ∀ s b, p s → (m.step s b).Shifts p)
    {s t : m.State} {word : Bytes} (h : m.stateAfter? s word = some t) (hs : p s) : p t :=
  stateAfter?_tracked (p := fun _ => p) (fun _ => hstep) [] h hs

/-- Behind a word that goes on a token the rest decides on the kind. -/
theorem kindOf?_append {s t : m.State} {word : Bytes} (h : m.stateAfter? s word = some t)
    (more : Bytes) : m.kindOf? s (word ++ more) = m.kindOf? t more := by
  induction word generalizing s with
  | nil => exact Option.some.inj h ▸ rfl
  | cons b rest ih =>
    rw [stateAfter?] at h
    rw [List.cons_append, kindOf?]
    cases hcase : m.step s b with
    | shift next =>
      rw [hcase] at h
      exact ih h
    | accept next =>
      rw [hcase] at h
      exact absurd h (by simp)
    | reject next =>
      rw [hcase] at h
      exact absurd h (by simp)

/-- The kind of a word that stops in the middle of a token. -/
theorem kindOf?_of_stateAfter? {s t : m.State} {word : Bytes}
    (h : m.stateAfter? s word = some t) : m.kindOf? s word = some (m.finish t).1 := by
  have hkind := kindOf?_append h []
  rwa [List.append_nil] at hkind

/-- The states that a token begins in, or the part of one on a new line. -/
inductive Begins (m : Machine) : m.State → Prop
  | start : m.Begins m.start
  | idle {s : m.State} (h : m.isIdle s = true) : m.Begins s
  | newline {s : m.State} (h : m.isIdle s = true ∨ m.spansNewline s = true) :
      m.Begins (m.newline s)

/-- The ways for a token to end that begins in the state `first`: its word, its kind, and what
follows it. -/
inductive Ends (m : Machine) (first : m.State) : Bytes → m.Kind → Bytes → Prop
  /-- The last octet completes the token. -/
  | accept {word rest : Bytes} {b : UInt8} {s next : m.State}
      (hword : m.stateAfter? first word = some s) (hstep : m.step s b = .accept next) :
      m.Ends first (word ++ [b]) (m.finish next).1 rest
  /-- The octet that follows is none of the token. -/
  | reject {word rest : Bytes} {b : UInt8} {s next : m.State}
      (hword : m.stateAfter? first word = some s) (hbusy : m.isIdle s = false)
      (hstep : m.step s b = .reject next) :
      m.Ends first word (m.finish next).1 (b :: rest)
  /-- The line or the input is over. -/
  | lineEnd {word rest : Bytes} {s : m.State} (hword : m.stateAfter? first word = some s)
      (hbusy : m.isIdle s = false) (hrest : rest = [] ∨ Reading.atLineEnd rest = true) :
      m.Ends first word (m.finish s).1 rest
  /-- Between tokens the octet is refused. -/
  | refuse {rest : Bytes} {b : UInt8} {next : m.State} (hidle : m.isIdle first = true)
      (hstep : m.step first b = .reject next) :
      m.Ends first [b] TokenKind.error rest

/-- Behind an octet that goes on the token, the rest of it ends as the whole does. -/
theorem Ends.of_shift {first next : m.State} {b : UInt8} {word rest : Bytes} {kind : m.Kind}
    (hshift : m.step first b = .shift next) (h : m.Ends first (b :: word) kind rest) :
    m.Ends next word kind rest := by
  have hbehind : ∀ {more s}, m.stateAfter? first (b :: more) = some s →
      m.stateAfter? next more = some s := by
    intro more s hword
    rwa [stateAfter?, hshift] at hword
  generalize hwhole : b :: word = whole at h
  cases h with
  | @accept front _ c s last hword hstep =>
    cases front with
    | nil =>
      obtain ⟨rfl, -⟩ := List.cons.inj hwhole
      obtain rfl : first = s := Option.some.inj hword
      exact absurd (hshift.symm.trans hstep) (by simp)
    | cons d front =>
      obtain ⟨rfl, rfl⟩ := List.cons.inj hwhole
      exact .accept (hbehind hword) hstep
  | reject hword hbusy hstep => exact .reject (hbehind (hwhole ▸ hword)) hbusy hstep
  | lineEnd hword hbusy hrest => exact .lineEnd (hbehind (hwhole ▸ hword)) hbusy hrest
  | refuse hidle hstep =>
    obtain ⟨rfl, -⟩ := List.cons.inj hwhole
    exact absurd (hshift.symm.trans hstep) (by simp)

/-- Whether the complete tokens among the events, with `rest` behind them, end in one of these
ways. -/
def EndsEach (m : Machine) : List (Event m.Kind) → Bytes → Prop
  | [], _ => True
  | event :: later, rest =>
    (∀ kind text, event = .token kind text false →
        ∃ first, m.Begins first ∧ m.Ends first text.unjoined kind (Event.source later ++ rest))
      ∧ m.EndsEach later rest

theorem EndsEach.append {events more : List (Event m.Kind)} {rest : Bytes}
    (h : m.EndsEach events (Event.source more ++ rest)) (hmore : m.EndsEach more rest) :
    m.EndsEach (events ++ more) rest := by
  induction events with
  | nil => exact hmore
  | cons event later ih =>
    refine ⟨?_, ih h.2⟩
    rw [List.append_eq, Event.source_append, List.append_assoc]
    exact h.1

theorem EndsEach.of_append {events more : List (Event m.Kind)} {rest : Bytes}
    (h : m.EndsEach (events ++ more) rest) : m.EndsEach more rest := by
  induction events with
  | nil => exact h
  | cons event later ih => exact ih h.2

/-- A line end is no token. -/
theorem endsEach_newline (text rest : Bytes) : m.EndsEach [.newline text] rest :=
  ⟨fun _ _ h => absurd h (by simp), trivial⟩

/-- A complete token, and what is behind it. -/
theorem endsEach_token {kind : m.Kind} {text rest : Bytes} {first : m.State}
    (hfirst : m.Begins first) (h : m.Ends first text.unjoined kind rest) :
    m.EndsEach [.token kind text false] rest := by
  refine ⟨fun kind' text' heq => ?_, trivial⟩
  obtain ⟨rfl, rfl⟩ : kind = kind' ∧ text = text' := by simpa using heq
  exact ⟨first, hfirst, h⟩

end Machine

/-! ### The word of the token in progress -/

namespace Reading

/-- The machine has gone through a word since the token in progress began in the state `first`: it
is what is left of the octets of the token, without its line continuations. Behind a backslash that
joins two lines the input goes on with a line end. -/
structure Spells (r : Reading m) (input : Bytes) (first : m.State) (word : Bytes) : Prop where
  begins : m.Begins first
  state : m.stateAfter? first word = some r.state
  unjoined : ∀ more, (r.continuation = .none → atLineEnd more = false) →
    (r.continuation = .backslash → atLineEnd more = true) →
    (r.run ++ more).unjoined = word ++ more.unjoinedFrom r.continuation
  joins : r.continuation = .backslash → atLineEnd input = true

variable {r r' : Reading m} {input rest word : Bytes} {given : List (Event m.Kind)}
  {first : m.State} {b : UInt8}

/-- No octet of the token is read yet. -/
theorem spells_nil {s : m.State} (h : m.Begins s) (input : Bytes) :
    Spells ⟨s, [], .none⟩ input s [] :=
  ⟨h, rfl, fun _ _ _ => rfl, fun h => absurd h (by simp)⟩

namespace Spells

theorem unjoined_run (h : r.Spells input first word) (hc : r.continuation ≠ .backslash) :
    r.run.unjoined = word := by
  have hrun := h.unjoined [] (fun _ => rfl) fun hback => absurd hback hc
  rwa [List.append_nil, Bytes.unjoinedFrom_nil, List.append_nil] at hrun

/-- A line continuation that an octet does not go on is over. -/
theorem forget (h : r.Spells (b :: rest) first word) (hextend : r.continuation.extend b = none) :
    Spells ⟨r.state, r.run, .none⟩ (b :: rest) first word where
  begins := h.begins
  state := h.state
  unjoined more hmore _ := by
    have hback : r.continuation ≠ .backslash := by
      intro hc
      have hb : b = Octet.lineFeed ∨ b = Octet.carriageReturn := by
        simpa [atLineEnd] using h.joins hc
      exact Continuation.extend_backslash_ne_none hb (hc ▸ hextend)
    have hline : atLineEnd more = false := hmore rfl
    rw [h.unjoined more (fun _ => hline) fun hc => absurd hc hback,
      Bytes.unjoinedFrom_of_not_atLineEnd _ hline]
    rfl
  joins hc := absurd hc (by simp)

/-- An octet goes on a line continuation. -/
theorem extend {next : Continuation} (h : r.Spells (b :: rest) first word)
    (hextend : r.continuation.extend b = some next) :
    Spells ⟨r.state, r.run ++ [b], next⟩ rest first word where
  begins := h.begins
  state := h.state
  unjoined more _ _ := by
    have hnone : r.continuation ≠ .none := by
      intro hc
      exact absurd (hc ▸ hextend) (by simp [Continuation.extend])
    rw [List.append_assoc, List.singleton_append,
      h.unjoined (b :: more) (fun hc => absurd hc hnone) (fun hc => h.joins hc),
      Bytes.unjoinedFrom_of_extend hextend]
  joins hc := absurd hc (Continuation.extend_ne_backslash hextend)

/-- A backslash joins two lines. -/
theorem join (h : r.Spells (Octet.backslash :: rest) first word) (hrest : atLineEnd rest = true) :
    Spells ⟨r.state, r.run ++ [Octet.backslash], .backslash⟩ rest first word where
  begins := h.begins
  state := h.state
  unjoined more _ hmore := by
    have hback : atLineEnd (Octet.backslash :: more) = false := rfl
    have hnone := extend_of_not_lineEnd r.continuation (b := Octet.backslash) (by decide)
    rw [List.append_assoc, List.singleton_append,
      (h.forget hnone).unjoined (Octet.backslash :: more) (fun _ => hback) (fun hc => nomatch hc)]
    exact congrArg (word ++ ·) (Bytes.unjoined_backslash_cons (hmore rfl))
  joins _ := hrest

section Octets

variable (hc : r.continuation = .none) (hb : ¬(b = Octet.lineFeed ∨ b = Octet.carriageReturn))

include hc hb

theorem unjoined_concat (h : r.Spells input first word) (more : Bytes)
    (hmore : atLineEnd more = false) :
    (r.run ++ [b] ++ more).unjoined = word ++ [b] ++ more.unjoined := by
  have hline : atLineEnd (b :: more) = false := by
    simpa [atLineEnd] using hb
  rw [List.append_assoc, List.append_assoc, List.singleton_append, List.singleton_append,
    h.unjoined (b :: more) (fun _ => hline) (fun hback => absurd hback (by simp [hc])), hc]
  exact congrArg (word ++ ·) (Bytes.unjoined_cons fun hback => by simp [hmore] at hback)

/-- An octet goes on the token. -/
theorem shift (h : r.Spells input first word) {next : m.State}
    (hstep : m.step r.state b = .shift next) :
    Spells ⟨next, r.run ++ [b], .none⟩ rest first (word ++ [b]) where
  begins := h.begins
  state := Machine.stateAfter?_concat h.state hstep
  unjoined more hmore _ := h.unjoined_concat hc hb more (hmore rfl)
  joins hback := absurd hback (by simp)

/-- The word of a token that an octet completes. -/
theorem unjoined_accept (h : r.Spells input first word) :
    (r.run ++ [b]).unjoined = word ++ [b] := by
  have hword := h.unjoined_concat hc hb [] rfl
  rwa [List.append_nil, Bytes.unjoined_nil, List.append_nil] at hword

/-- An octet that does not end the token before it goes on one, or is the last one of one. -/
theorem take (h : r.Spells input first word)
    (hidle : (m.step r.state b).isReject = true → m.isIdle r.state = true) (rest : Bytes) :
    m.EndsEach (r.take b).1 ((r.take b).2.run ++ rest)
      ∧ ∃ first word, (r.take b).2.Spells rest first word := by
  cases hstep : m.step r.state b with
  | shift next =>
    simp only [Reading.take, hstep]
    exact ⟨trivial, first, word ++ [b], h.shift hc hb hstep⟩
  | accept next =>
    simp only [Reading.take, hstep]
    have hends : m.Ends first (r.run ++ [b]).unjoined (m.finish next).1 rest := by
      rw [h.unjoined_accept hc hb]
      exact .accept h.state hstep
    exact ⟨Machine.endsEach_token h.begins hends, _, [],
      spells_nil (.idle (m.isIdle_finish next)) rest⟩
  | reject next =>
    have hidle : m.isIdle r.state = true := hidle (by simp [hstep])
    simp only [Reading.take, hstep]
    have hb' : Bytes.unjoined [b] = [b] := Bytes.unjoined_cons (by simp [atLineEnd])
    have hends : m.Ends r.state (Bytes.unjoined [b]) TokenKind.error rest := by
      rw [hb']
      exact .refuse hidle hstep
    exact ⟨Machine.endsEach_token (.idle hidle) hends, _, [],
      spells_nil (.idle (m.isIdle_finish next)) rest⟩

/-- An octet that is offered may end the token before it. -/
theorem offer (hm : m.IsSteady) (h : r.Spells input first word) :
    m.EndsEach (r.offer b).1 ((r.offer b).2.run ++ rest)
      ∧ ∃ first word, (r.offer b).2.Spells rest first word := by
  unfold Reading.offer
  split
  · next next hbusy hstep =>
    have hidle : m.isIdle (m.finish next).2 = true := m.isIdle_finish next
    obtain ⟨hsource, -⟩ :=
      take_spec hm (r := ⟨(m.finish next).2, [], .none⟩) (b := b) fun _ _ => rfl
    obtain ⟨htaken, hlater⟩ :=
      (spells_nil (.idle hidle) (b :: rest)).take rfl hb (fun _ => hidle) rest
    have hends : m.Ends first r.run.unjoined (m.finish next).1 (b :: rest) := by
      rw [h.unjoined_run (by simp [hc])]
      exact .reject h.state hbusy hstep
    refine ⟨?_, hlater⟩
    rw [← List.singleton_append]
    refine (Machine.endsEach_token h.begins ?_).append htaken
    rw [← List.append_assoc, hsource]
    exact hends
  · next hother =>
    refine h.take hc hb (fun hreject => ?_) rest
    cases hstep : m.step r.state b with
    | shift next => exact absurd hreject (by simp [hstep])
    | accept next => exact absurd hreject (by simp [hstep])
    | reject next => exact eq_true_of_ne_false fun hbusy => hother next hbusy hstep

end Octets

/-- A line end ends the token, or interrupts it. -/
theorem lineEnd (h : r.Spells input first word) (hc : r.continuation = .none)
    {text : Bytes} (hend : EndsLine text rest) :
    m.EndsEach (r.lineEnd text).1 rest
      ∧ ∃ first word, (r.lineEnd text).2.Spells rest first word := by
  have hbefore : m.EndsEach r.beforeLineEnd.1 (text ++ rest)
      ∧ (m.isIdle r.beforeLineEnd.2 = true ∨ m.spansNewline r.beforeLineEnd.2 = true) := by
    unfold beforeLineEnd
    split
    · next hidle => exact ⟨trivial, .inl hidle⟩
    split
    · next hspans =>
      refine ⟨?_, .inr hspans⟩
      split
      · trivial
      · exact ⟨fun _ _ heq => absurd heq (by simp), trivial⟩
    · next hidle _ =>
      have hbusy : m.isIdle r.state = false := Bool.not_eq_true _ ▸ hidle
      have hends : m.Ends first r.run.unjoined (m.finish r.state).1 (text ++ rest) := by
        rw [h.unjoined_run (by simp [hc])]
        exact .lineEnd h.state hbusy (.inr hend.atLineEnd)
      exact ⟨Machine.endsEach_token h.begins hends, .inl (m.isIdle_finish r.state)⟩
  refine ⟨Machine.EndsEach.append ?_ (Machine.endsEach_newline text rest), _, [],
    spells_nil (.newline hbefore.2) rest⟩
  rw [show Event.source [(.newline text : Event m.Kind)] = text from List.append_nil text]
  exact hbefore.1

end Spells

/-! ### From step to step -/

/-- The complete tokens that a step gives out end as they should, and the word of the token in
progress is known behind it. -/
theorem Reads.endsEach (hm : m.IsSteady) (h : r.Reads input given r' rest)
    (hspells : r.Spells input first word) :
    m.EndsEach given (r'.run ++ rest) ∧ ∃ first word, r'.Spells rest first word := by
  cases h with
  | extend hextend => exact ⟨trivial, first, word, hspells.extend hextend⟩
  | join hjoins hrest => exact ⟨trivial, first, word, hspells.join hrest⟩
  | offer hb hjoins =>
    have hforget := hspells.forget (extend_of_not_lineEnd _ hb)
    exact Spells.offer (r := ⟨r.state, r.run, .none⟩) rfl hb hm hforget
  | lineEnd hend hextend =>
    obtain ⟨b, tail, rfl⟩ := hend.exists_eq_cons
    have hforget := hspells.forget (hextend b rfl)
    exact Spells.lineEnd (r := ⟨r.state, r.run, .none⟩) hforget rfl hend

/-- At the end of the input the token in progress ends. -/
theorem Spells.ending (h : r.Spells [] first word) : m.EndsEach r.ending [] := by
  have hc : r.continuation ≠ .backslash := fun hback => absurd (h.joins hback) (by decide)
  unfold Reading.ending
  split
  · trivial
  · next hidle =>
    have hends : m.Ends first r.run.unjoined (m.finish r.state).1 [] := by
      rw [h.unjoined_run hc]
      exact .lineEnd h.state (Bool.not_eq_true _ ▸ hidle) (.inl rfl)
    exact Machine.endsEach_token h.begins hends

/-- All complete tokens of an input end as they should. -/
theorem endsEach_events (hm : m.IsSteady) (hr : r.IsSound) (h : r.Spells input first word) :
    m.EndsEach (r.events input) [] := by
  induction hlength : input.length using Nat.strongRecOn generalizing r input first word with
  | ind n ih =>
    cases input with
    | nil => exact h.ending
    | cons b input =>
      obtain ⟨given, r', rest, hreads⟩ := r.exists_reads b input
      have hnext : Place.Next ⟨[], r, b :: input⟩ ⟨[] ++ given, r', rest⟩ := .reads hreads
      have hr' := hreads.isSound hm hr
      obtain ⟨hgiven, first', word', hspells⟩ := hreads.endsEach hm h
      rw [hreads.events_eq]
      refine Machine.EndsEach.append ?_ (ih _ (hlength ▸ hnext.length_lt) hr' hspells rfl)
      rwa [source_events hm hr', List.append_nil]

end Reading

/-- Every complete token of an input, line continuations apart, is a word that the machine goes
through from where a token begins, and ends there. -/
theorem Machine.exists_ends (hm : m.IsSteady) {buffers : List Bytes}
    {before after : List (Event m.Kind)} {kind : m.Kind} {text : Bytes}
    (h : Event.merged (m.events buffers) = before ++ .token kind text false :: after) :
    ∃ first, m.Begins first ∧ m.Ends first text.unjoined kind (Event.source after) := by
  have hspells : Reading.Spells ({} : Reading m) buffers.flatten m.start [] :=
    Reading.spells_nil .start buffers.flatten
  have hall := Reading.endsEach_events hm (Reading.isSound_of_run_eq_nil rfl rfl) hspells
  rw [m.merged_events hm] at h
  rw [h] at hall
  obtain ⟨first, hfirst, hends⟩ := hall.of_append.1 kind text rfl
  rw [List.append_nil] at hends
  exact ⟨first, hfirst, hends⟩

/-- Where lines are not continued, the word is the text of the token. -/
theorem Machine.exists_ends_of_isLine (hm : m.IsSteady) (hlines : m.continuesLines = false)
    {buffers : List Bytes} {before after : List (Event m.Kind)} {kind : m.Kind} {text : Bytes}
    (h : Event.merged (m.events buffers) = before ++ .token kind text false :: after) :
    ∃ first, m.Begins first ∧ m.Ends first text kind (Event.source after) := by
  have htext : text.IsLine := by
    have hmem : Event.token kind text false ∈ Reading.events ({} : Reading m) buffers.flatten := by
      rw [← m.merged_events hm, h]
      simp
    exact Reading.isInLine_events hlines rfl Bytes.isLine_nil _ _ hmem
  obtain ⟨first, hfirst, hends⟩ := m.exists_ends hm h
  rw [Bytes.unjoined_of_isLine htext] at hends
  exact ⟨first, hfirst, hends⟩

/-- Its octets stand in the input between those of the events before and after it. -/
theorem Machine.flatten_eq_of_token (hm : m.IsSteady) {buffers : List Bytes}
    {before after : List (Event m.Kind)} {kind : m.Kind} {text : Bytes} {fragment : Bool}
    (h : Event.merged (m.events buffers) = before ++ .token kind text fragment :: after) :
    buffers.flatten = Event.source before ++ (text ++ Event.source after) := by
  have hsource := Machine.source_events hm buffers
  rw [← Event.merged_source, h, Event.source_append] at hsource
  exact hsource.symm

end MarkupFeed
