import MarkupFeed.Tokenizer

/-!
# Reading an input without buffers

What a machine makes of an input that is there to its end.

`Reading.events` says in one recursion over the octets what a tokenizer, fed in whatever buffers,
comes to once its fragments are merged: there are no buffers, no held octets and no positions here,
only the state of the machine, the octets of the token in progress on the current line, and where
the reading stands in a line continuation. Its main statements:

* `Event.mergedAfter_append`: merging can stop after any number of events and go on from the open
  run (`Event.settle`);
* `Reading.source_events`: a reading loses no octet and adds none.
-/

namespace MarkupFeed

/-! ### Merging that stops on the way -/

namespace Event

variable {κ : Type}

/-- The octets of an open run. -/
def openText (run : Option (κ × Bytes)) : Bytes := run.elim [] Prod.snd

/-- Merges one event after an open run: the events that are complete now, and the run that is open
after it. -/
def mergeOne (run : Option (κ × Bytes)) : Event κ → List (Event κ) × Option (κ × Bytes)
  | token kind text fragment =>
    if fragment then ([], some (kind, openText run ++ text))
    else ([token kind (openText run ++ text) false], none)
  | newline text => (interrupted run ++ [newline text], none)

/-- Merges events after an open run, and leaves the last run open. -/
def settle : Option (κ × Bytes) → List (Event κ) → List (Event κ) × Option (κ × Bytes)
  | run, [] => ([], run)
  | run, event :: rest =>
    ((mergeOne run event).1 ++ (settle (mergeOne run event).2 rest).1,
      (settle (mergeOne run event).2 rest).2)

theorem mergedAfter_cons (run : Option (κ × Bytes)) (event : Event κ) (rest : List (Event κ)) :
    mergedAfter run (event :: rest)
      = (mergeOne run event).1 ++ mergedAfter (mergeOne run event).2 rest := by
  cases event with
  | token kind text fragment => cases fragment <;> simp [mergedAfter, mergeOne, openText]
  | newline text => simp [mergedAfter, mergeOne]

/-- Merging can stop anywhere and go on from the run that is open there. -/
theorem mergedAfter_append (run : Option (κ × Bytes)) (events more : List (Event κ)) :
    mergedAfter run (events ++ more)
      = (settle run events).1 ++ mergedAfter (settle run events).2 more := by
  induction events generalizing run with
  | nil => rfl
  | cons event rest ih =>
    rw [List.cons_append, mergedAfter_cons, ih, settle, List.append_assoc]

theorem settle_append (run : Option (κ × Bytes)) (events more : List (Event κ)) :
    settle run (events ++ more)
      = ((settle run events).1 ++ (settle (settle run events).2 more).1,
          (settle (settle run events).2 more).2) := by
  induction events generalizing run with
  | nil => rfl
  | cons event rest ih => rw [List.cons_append, settle, ih, settle, List.append_assoc]

theorem source_append (events more : List (Event κ)) :
    source (events ++ more) = source events ++ source more :=
  List.flatMap_append

/-- One more event at the end settles by itself. -/
theorem settle_concat (run : Option (κ × Bytes)) (events : List (Event κ)) (event : Event κ) :
    settle run (events ++ [event])
      = ((settle run events).1 ++ (mergeOne (settle run events).2 event).1,
          (mergeOne (settle run events).2 event).2) := by
  rw [settle_append, settle, settle, List.append_nil]

end Event

theorem Report.events_append {κ : Type} (reports more : List (Report κ)) :
    events (reports ++ more) = events reports ++ events more :=
  List.map_append

/-- What ends a line. -/
def Bytes.lineEnds : List Bytes :=
  [[Octet.lineFeed], [Octet.carriageReturn], [Octet.carriageReturn, Octet.lineFeed]]

theorem Bytes.eq_or_eq_of_mem_lineEnds {ending : Bytes} (h : ending ∈ lineEnds) {b : UInt8}
    (hb : b ∈ ending) : b = Octet.lineFeed ∨ b = Octet.carriageReturn := by
  simp only [lineEnds, List.mem_cons, List.not_mem_nil, or_false] at h
  rcases h with rfl | rfl | rfl
  · exact .inl (List.mem_singleton.mp hb)
  · exact .inr (List.mem_singleton.mp hb)
  · rcases List.mem_cons.mp hb with hcr | hlf
    · exact .inr hcr
    · exact .inl (List.mem_singleton.mp hlf)

/-! ### Machines that stay inside their tokens -/

namespace Step

variable {σ : Type} {p q : σ → Prop}

/-- If the step goes on the token, the state it leads to has the property. -/
def Shifts (p : σ → Prop) : Step σ → Prop
  | .shift next => p next
  | .accept _ | .reject _ => True

@[simp] theorem shifts_shift {s : σ} : (Step.shift s).Shifts p ↔ p s := Iff.rfl

@[simp] theorem shifts_accept {s : σ} : (Step.accept s).Shifts p := trivial

@[simp] theorem shifts_reject {s : σ} : (Step.reject s).Shifts p := trivial

@[simp] theorem shifts_ite {c : Prop} [Decidable c] {a b : Step σ} :
    (if c then a else b).Shifts p ↔ (c → a.Shifts p) ∧ (¬c → b.Shifts p) := by
  split <;> simp_all

theorem Shifts.mono {step : Step σ} (h : step.Shifts p) (hpq : ∀ s, p s → q s) :
    step.Shifts q := by
  cases step with
  | shift s => exact hpq s h
  | accept s => trivial
  | reject s => trivial

end Step

/-- An octet that goes on a token leaves the machine inside it. -/
def Machine.IsSteady (m : Machine) : Prop :=
  ∀ s b, (m.step s b).Shifts fun next => m.isIdle next = false

theorem Machine.IsSteady.busy {m : Machine} (hm : m.IsSteady) {s next : m.State} {b : UInt8}
    (h : m.step s b = .shift next) : m.isIdle next = false := by
  have hshifts := hm s b
  rwa [h] at hshifts

/-! ### Readings -/

/-- A machine at a place of an input that is there to its end. -/
structure Reading (m : Machine) where
  /-- The state of the machine. -/
  state : m.State := m.start
  /-- The octets of the token in progress, as far as they stand on the current line. -/
  run : Bytes := []
  /-- Where the reading stands in a line continuation. -/
  continuation : Continuation := .none

namespace Reading

variable {m : Machine}

/-- The events at the end of the input: the token in progress is closed. -/
def ending (r : Reading m) : List (Event m.Kind) :=
  if m.isIdle r.state then [] else [.token (m.finish r.state).1 r.run false]

/-- Reads an octet that does not end the token before it: the events it completes, and the reading
after it. -/
def take (r : Reading m) (b : UInt8) : List (Event m.Kind) × Reading m :=
  match m.step r.state b with
  | .shift next => ([], ⟨next, r.run ++ [b], .none⟩)
  | .accept next =>
    ([.token (m.finish next).1 (r.run ++ [b]) false], ⟨(m.finish next).2, [], .none⟩)
  | .reject next => ([.token TokenKind.error [b] false], ⟨(m.finish next).2, [], .none⟩)

/-- Reads an octet that is neither a line end nor part of a line continuation. -/
def offer (r : Reading m) (b : UInt8) : List (Event m.Kind) × Reading m :=
  match m.isIdle r.state, m.step r.state b with
  | false, .reject next =>
    (.token (m.finish next).1 r.run false :: (take ⟨(m.finish next).2, [], .none⟩ b).1,
      (take ⟨(m.finish next).2, [], .none⟩ b).2)
  | _, _ => r.take b

/-- What a line end makes of the token in progress, and the state of the machine in front of it. -/
def beforeLineEnd (r : Reading m) : List (Event m.Kind) × m.State :=
  if m.isIdle r.state then ([], r.state)
  else if m.spansNewline r.state then
    (if r.run.isEmpty then [] else [.token (m.kind r.state) r.run true], r.state)
  else ([.token (m.finish r.state).1 r.run false], (m.finish r.state).2)

/-- Reads a line end. -/
def lineEnd (r : Reading m) (text : Bytes) : List (Event m.Kind) × Reading m :=
  (r.beforeLineEnd.1 ++ [.newline text], ⟨m.newline r.beforeLineEnd.2, [], .none⟩)

/-- Whether a backslash here joins two lines, provided a line end follows. -/
def joinsLines (r : Reading m) : Bool :=
  m.continuesLines && !m.isIdle r.state && !m.isEscaping r.state

/-- Whether the rest of an input begins with a line end. -/
def atLineEnd (rest : Bytes) : Bool :=
  rest.head? == some Octet.lineFeed || rest.head? == some Octet.carriageReturn

/-- Reads an octet that goes on no line continuation and is no CR in front of an LF, given the rest
of the input. -/
def advance (r : Reading m) (b : UInt8) (rest : Bytes) : List (Event m.Kind) × Reading m :=
  if b = Octet.lineFeed ∨ b = Octet.carriageReturn then r.lineEnd [b]
  else if b = Octet.backslash ∧ r.joinsLines ∧ atLineEnd rest then
    ([], ⟨r.state, r.run ++ [b], .backslash⟩)
  else r.offer b

/-- The merged events of the rest of an input. -/
def events : Reading m → Bytes → List (Event m.Kind)
  | r, [] => r.ending
  | r, b :: rest =>
    match r.continuation.extend b with
    | some continuation => events ⟨r.state, r.run ++ [b], continuation⟩ rest
    | none =>
      if b = Octet.carriageReturn ∧ rest.head? = some Octet.lineFeed then
        (r.lineEnd [b, Octet.lineFeed]).1
          ++ match rest with
            | [] => []
            | _ :: tail => events (r.lineEnd [b, Octet.lineFeed]).2 tail
      else (r.advance b rest).1 ++ events (r.advance b rest).2 rest

/-! ### Equations of a reading -/

/-- An octet that goes on a line continuation belongs to the token. -/
theorem events_of_extend {r : Reading m} {b : UInt8} {continuation : Continuation}
    (h : r.continuation.extend b = some continuation) (rest : Bytes) :
    r.events (b :: rest) = events ⟨r.state, r.run ++ [b], continuation⟩ rest := by
  rw [events.eq_def]
  simp only [h]

/-- An octet that does not go on a line continuation ends it. -/
theorem events_of_not_extend {r : Reading m} {b : UInt8} (h : r.continuation.extend b = none)
    (rest : Bytes) : r.events (b :: rest) = events ⟨r.state, r.run, .none⟩ (b :: rest) := by
  rw [events.eq_def, events.eq_def]
  simp only [h]
  rfl

/-- CR LF is one line end. -/
theorem events_crlf {r : Reading m} (h : r.continuation = .none) (rest : Bytes) :
    r.events (Octet.carriageReturn :: Octet.lineFeed :: rest)
      = (r.lineEnd [Octet.carriageReturn, Octet.lineFeed]).1
        ++ (r.lineEnd [Octet.carriageReturn, Octet.lineFeed]).2.events rest := by
  rw [events.eq_def]
  simp [h, Continuation.extend]

/-- Any other octet outside a line continuation. -/
theorem events_cons {r : Reading m} {b : UInt8} {rest : Bytes} (h : r.continuation = .none)
    (hb : ¬(b = Octet.carriageReturn ∧ rest.head? = some Octet.lineFeed)) :
    r.events (b :: rest) = (r.advance b rest).1 ++ (r.advance b rest).2.events rest := by
  rw [events.eq_def]
  simp only [h, Continuation.extend, if_neg hb]

/-! ### What a reading keeps -/

/-- A reading has octets of a token, and joins lines, inside tokens only. -/
structure IsSound (r : Reading m) : Prop where
  of_idle : m.isIdle r.state = true → r.run = []
  of_continuation : r.continuation ≠ .none → m.isIdle r.state = false

theorem isSound_of_run_eq_nil {r : Reading m} (hrun : r.run = []) (hc : r.continuation = .none) :
    r.IsSound :=
  ⟨fun _ => hrun, fun hne => absurd hc hne⟩

theorem take_spec (hm : m.IsSteady) {r : Reading m} {b : UInt8}
    (hr : ∀ next, m.step r.state b = .reject next → r.run = []) :
    Event.source (r.take b).1 ++ (r.take b).2.run = r.run ++ [b] ∧ (r.take b).2.IsSound := by
  cases hstep : m.step r.state b with
  | shift next =>
    have hbusy : m.isIdle next = false := hm.busy hstep
    simp only [take, hstep]
    refine ⟨rfl, ?_, fun hne => absurd rfl hne⟩
    intro hidle
    exact absurd hidle (by simp [hbusy])
  | accept next =>
    simp only [take, hstep]
    exact ⟨by simp [Event.source, Event.text], isSound_of_run_eq_nil rfl rfl⟩
  | reject next =>
    -- the event of a refused octet holds this octet only
    have hrun : r.run = [] := hr next hstep
    simp only [take, hstep]
    exact ⟨by simp [Event.source, Event.text, hrun], isSound_of_run_eq_nil rfl rfl⟩

/-- An octet that is offered goes into the events or into the run, and is the only one to. -/
theorem offer_spec (hm : m.IsSteady) {r : Reading m} (h : r.IsSound) (b : UInt8) :
    Event.source (r.offer b).1 ++ (r.offer b).2.run = r.run ++ [b] ∧ (r.offer b).2.IsSound := by
  unfold offer
  split
  · next next hbusy hstep =>
    -- the octet closes the token in progress and begins the next one
    obtain ⟨hsource, hsound⟩ := take_spec hm (r := ⟨(m.finish next).2, [], .none⟩) (b := b)
      fun _ _ => rfl
    refine ⟨?_, hsound⟩
    rw [Event.source, List.flatMap_cons, List.append_assoc]
    exact congrArg (r.run ++ ·) hsource
  · next hother =>
    refine take_spec hm ?_
    intro next hstep
    have hidle : m.isIdle r.state = true :=
      eq_true_of_ne_false fun hbusy => hother next hbusy hstep
    exact h.of_idle hidle

/-- The octets of a token and those of the line end behind it are given out. -/
theorem lineEnd_spec {r : Reading m} (h : r.IsSound) (text : Bytes) :
    Event.source (r.lineEnd text).1 = r.run ++ text ∧ (r.lineEnd text).2.IsSound := by
  refine ⟨?_, isSound_of_run_eq_nil rfl rfl⟩
  have hbefore : Event.source r.beforeLineEnd.1 = r.run := by
    unfold beforeLineEnd
    split
    · next hidle => exact (h.of_idle hidle).symm
    · split
      · cases hrun : r.run <;> simp [Event.source, Event.text]
      · simp [Event.source, Event.text]
  rw [lineEnd, Event.source, List.flatMap_append]
  show Event.source r.beforeLineEnd.1 ++ _ = _
  rw [hbefore]
  simp [Event.text]

theorem advance_spec (hm : m.IsSteady) {r : Reading m} (h : r.IsSound) (b : UInt8) (rest : Bytes) :
    Event.source (r.advance b rest).1 ++ (r.advance b rest).2.run = r.run ++ [b]
      ∧ (r.advance b rest).2.IsSound := by
  unfold advance
  split
  · obtain ⟨hsource, hsound⟩ := lineEnd_spec h [b]
    refine ⟨?_, hsound⟩
    rw [hsource]
    exact List.append_nil _
  · split
    · next hback =>
      -- lines are joined inside tokens only
      have hjoins := hback.2.1
      simp only [joinsLines, Bool.and_eq_true, Bool.not_eq_true'] at hjoins
      exact ⟨rfl, fun hidle => absurd hidle (by simp [hjoins.1.2]), fun _ => hjoins.1.2⟩
    · exact offer_spec hm h b

/-- The events of a reading are made of the octets of the token it is in and of those it has still
to read, in order, and of no others. -/
theorem source_events (hm : m.IsSteady) {r : Reading m} (h : r.IsSound) (input : Bytes) :
    Event.source (r.events input) = r.run ++ input := by
  fun_induction events r input with
  | case1 r =>
    -- the end of the input
    unfold ending
    split
    · next hidle =>
      rw [h.of_idle hidle]
      rfl
    · simp [Event.source, Event.text]
  | case2 r b rest continuation hext ih =>
    -- an octet of a line continuation
    have hbusy : m.isIdle r.state = false :=
      h.of_continuation fun hnone => by simp [hnone, Continuation.extend] at hext
    rw [ih ⟨fun hidle => absurd hidle (by simp [hbusy]), fun _ => hbusy⟩]
    simp
  | case3 r b rest hext hcrlf ih =>
    -- CR LF, two octets at once
    obtain ⟨hsource, hsound⟩ : _ ∧ (r.lineEnd [b, Octet.lineFeed]).2.IsSound := lineEnd_spec h _
    cases rest with
    | nil => simp at hcrlf
    | cons next tail =>
      have hnext : next = Octet.lineFeed := by simpa using hcrlf.2
      rw [Event.source_append, hsource, ih hsound, hnext]
      simp [lineEnd]
  | case4 r b rest hext hcrlf ih =>
    obtain ⟨hsource, hsound⟩ := advance_spec hm h b rest
    rw [Event.source_append, ih hsound, ← List.append_assoc, hsource]
    simp

end Reading

end MarkupFeed
