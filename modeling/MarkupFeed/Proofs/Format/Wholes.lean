import MarkupFeed.Proofs.Format.Resuming
import MarkupFeed.Proofs.Tokenizer.Coverage

/-!
# The tokens of an input in one piece each, over lines too

`Event.wholes` puts the pieces of a token and the line ends between them together. It makes no
difference whether the pieces within a line were merged before (`Event.wholes_merged`), and no octet
is lost, since no token is left open (`Machine.source_wholes`). What the state of a machine says of
the octets that a token has so far (`Machine.Tracks`) carries over to the whole tokens of every
input: `Machine.Tracks.forall_mem_wholes`.
-/

namespace MarkupFeed

namespace Event

variable {κ : Type}

/-- The tokens of some events in one piece each, behind the octets of one that is open. A line end
in the middle of a token belongs to it. A token that is left open is left out. -/
def wholesAfter : Option Bytes → List (Event κ) → List (Event κ)
  | _, [] => []
  | run, token _ text true :: rest => wholesAfter (some (run.getD [] ++ text)) rest
  | run, token kind text false :: rest =>
    token kind (run.getD [] ++ text) false :: wholesAfter none rest
  | none, newline text :: rest => newline text :: wholesAfter none rest
  | some whole, newline text :: rest => wholesAfter (some (whole ++ text)) rest

/-- The whole tokens of some events, and the line ends between them. -/
def wholes (events : List (Event κ)) : List (Event κ) := wholesAfter none events

/-- The octets of the token that is open behind some events, given those of one that is open in
front of them. -/
def openAfter : Option Bytes → List (Event κ) → Option Bytes
  | run, [] => run
  | run, token _ text true :: rest => openAfter (some (run.getD [] ++ text)) rest
  | _, token _ _ false :: rest => openAfter none rest
  | run, newline text :: rest => openAfter (run.map (· ++ text)) rest

theorem isSome_openAfter (run : Option Bytes) (events : List (Event κ)) :
    (openAfter run events).isSome = isOpenAfter run.isSome events := by
  fun_induction openAfter run events <;> simp_all [isOpenAfter]

theorem openAfter_append (run : Option Bytes) (events more : List (Event κ)) :
    openAfter run (events ++ more) = openAfter (openAfter run events) more := by
  fun_induction openAfter run events <;> simp_all [openAfter]

theorem wholesAfter_append (run : Option Bytes) (events more : List (Event κ)) :
    wholesAfter run (events ++ more)
      = wholesAfter run events ++ wholesAfter (openAfter run events) more := by
  fun_induction wholesAfter run events <;> simp_all [wholesAfter, openAfter]

theorem source_wholesAfter (run : Option Bytes) (events : List (Event κ)) :
    source (wholesAfter run events) ++ (openAfter run events).getD []
      = run.getD [] ++ source events := by
  fun_induction wholesAfter run events <;> simp_all [openAfter, source, text]

/-- An open run and the piece behind it are one piece. -/
theorem wholesAfter_interrupted (run : Option Bytes) (pieces : Option (κ × Bytes)) (kind : κ)
    (text : Bytes) (fragment : Bool) (rest : List (Event κ)) :
    wholesAfter run (interrupted pieces ++ token kind text fragment :: rest)
      = wholesAfter run (token kind (openText pieces ++ text) fragment :: rest) := by
  cases pieces <;> cases fragment <;> simp [interrupted, openText, wholesAfter]

theorem wholesAfter_mergedAfter (run : Option Bytes) (pieces : Option (κ × Bytes))
    (events : List (Event κ)) :
    wholesAfter run (mergedAfter pieces events)
      = wholesAfter run (interrupted pieces ++ events) := by
  -- `pieces` is what merging holds back of the token
  fun_induction mergedAfter pieces events generalizing run with
  | case1 pieces => rw [List.append_nil]
  | case2 pieces kind text rest whole ih => rw [ih, wholesAfter_interrupted]; rfl
  | case3 pieces kind text fragment rest whole hlast ih =>
    obtain rfl : fragment = false := Bool.not_eq_true _ ▸ hlast
    rw [wholesAfter_interrupted, wholesAfter, wholesAfter, ih]
    rfl
  | case4 pieces text rest ih =>
    rw [wholesAfter_append, wholesAfter_append run]
    cases openAfter run (interrupted pieces) <;> simp [wholesAfter, ih, interrupted]

theorem wholes_merged (events : List (Event κ)) : wholes (merged events) = wholes events :=
  wholesAfter_mergedAfter none none events

/-- Whether a token has a kind and octets of which `q` holds. -/
def IsOf (q : κ → Bytes → Prop) : Event κ → Prop
  | token kind text _ => q kind text
  | newline _ => True

end Event

/-! ### Machines and the octets of their tokens -/

variable {m : Machine}

/-- What a state says of the octets of the token in progress, and what comes of it for the token. -/
structure Machine.Tracks (m : Machine) (p : Bytes → m.State → Prop) (q : m.Kind → Bytes → Prop) :
    Prop where
  idle : ∀ {s}, m.isIdle s = true → p [] s
  shift : ∀ {text s b next}, p text s → m.step s b = .shift next → p (text ++ [b]) next
  accept : ∀ {text s b next}, p text s → m.step s b = .accept next →
    q (m.finish next).1 (text ++ [b])
  /-- An octet ends the token in front of it. -/
  reject : ∀ {text s b next}, p text s → m.isIdle s = false → m.step s b = .reject next →
    q (m.finish next).1 text
  /-- An octet begins no token. -/
  refuse : ∀ {s b next}, m.isIdle s = true → m.step s b = .reject next → q TokenKind.error [b]
  /-- A line end or the end of the input ends the token. -/
  close : ∀ {text s}, p text s → m.isIdle s = false → q (m.finish s).1 text
  newline : ∀ {text s ending}, p text s → m.spansNewline s = true → ending ∈ Bytes.lineEnds →
    p (text ++ ending) (m.newline s)
  /-- An octet belongs to a line continuation. -/
  join : ∀ {text s} (b : UInt8), m.continuesLines = true → p text s → p (text ++ [b]) s

namespace Reading

open Event (wholesAfter openAfter IsOf)

variable {p : Bytes → m.State → Prop} {q : m.Kind → Bytes → Prop} {r r' : Reading m}
  {run : Option Bytes} {b : UInt8} {input rest : Bytes} {given : List (Event m.Kind)}

/-- A reading that is inside a token with some octets in front of the current line, or between
tokens, with what its state says of all octets of the token. -/
structure IsTracked (p : Bytes → m.State → Prop) (run : Option Bytes) (r : Reading m) : Prop where
  isSound : r.IsSound
  showsOpen : r.ShowsOpen run.isSome
  joins : r.continuation ≠ .none → m.continuesLines = true
  holds : p (run.getD [] ++ r.run) r.state

theorem isTracked_of_idle (hp : m.Tracks p q) (hidle : m.isIdle r.state = true)
    (hrun : r.run = []) (hc : r.continuation = .none) : r.IsTracked p none where
  isSound := isSound_of_run_eq_nil hrun hc
  showsOpen := ⟨(nomatch ·), fun _ hbusy => absurd hidle (by simp [hbusy])⟩
  joins hne := absurd hc hne
  holds := by
    rw [hrun]
    exact hp.idle hidle

/-- Between tokens no octet is kept. -/
theorem IsTracked.eq_nil (h : r.IsTracked p run) (hidle : m.isIdle r.state = true) :
    run = none ∧ r.run = [] := by
  refine ⟨?_, h.isSound.of_idle hidle⟩
  cases run with
  | none => rfl
  | some text => exact absurd hidle (by simp [h.showsOpen.isIdle_eq rfl])

/-- What some events come to: whole tokens of which `q` holds, and a state that goes with the octets
that are open behind them. -/
def GoesOn (p : Bytes → m.State → Prop) (q : m.Kind → Bytes → Prop) (run : Option Bytes)
    (result : List (Event m.Kind) × Reading m) : Prop :=
  (∀ event ∈ wholesAfter run result.1, event.IsOf q)
    ∧ p ((openAfter run result.1).getD [] ++ result.2.run) result.2.state

theorem goesOn_take (hp : m.Tracks p q) (hr : p (run.getD [] ++ r.run) r.state)
    (hreject : ∀ next, m.step r.state b = .reject next → m.isIdle r.state = true ∧ run = none) :
    GoesOn p q run (r.take b) := by
  unfold take
  cases hstep : m.step r.state b with
  | shift next =>
    refine ⟨List.forall_mem_nil _, ?_⟩
    show p (run.getD [] ++ (r.run ++ [b])) next
    rw [← List.append_assoc]
    exact hp.shift hr hstep
  | accept next =>
    refine ⟨List.forall_mem_singleton.mpr ?_, hp.idle (m.isIdle_finish next)⟩
    show q _ (run.getD [] ++ (r.run ++ [b]))
    rw [← List.append_assoc]
    exact hp.accept hr hstep
  | reject next =>
    obtain ⟨hidle, rfl⟩ := hreject next hstep
    exact ⟨List.forall_mem_singleton.mpr (hp.refuse hidle hstep), hp.idle (m.isIdle_finish next)⟩

theorem goesOn_offer (hp : m.Tracks p q) (h : r.IsTracked p run) (b : UInt8) :
    GoesOn p q run (r.offer b) := by
  unfold offer
  split
  · next next hbusy hstep =>
    -- the octet ends the token in progress
    have hidle : m.isIdle (m.finish next).2 = true := m.isIdle_finish next
    have hbetween : p ((none : Option Bytes).getD [] ++ []) (m.finish next).2 := hp.idle hidle
    obtain ⟨htaken, hnext⟩ := goesOn_take (r := ⟨(m.finish next).2, [], .none⟩) (b := b)
      hp hbetween fun _ _ => ⟨hidle, rfl⟩
    refine ⟨List.forall_mem_cons.mpr ⟨?_, htaken⟩, hnext⟩
    exact hp.reject h.holds hbusy hstep
  · next hother =>
    refine goesOn_take hp h.holds fun next hstep => ?_
    have hidle : m.isIdle r.state = true :=
      eq_true_of_ne_false fun hbusy => hother next hbusy hstep
    exact ⟨hidle, (h.eq_nil hidle).1⟩

theorem goesOn_lineEnd (hp : m.Tracks p q) (hn : m.IsIdleOverLines) (h : r.IsTracked p run)
    {ending : Bytes} (hending : ending ∈ Bytes.lineEnds) : GoesOn p q run (r.lineEnd ending) := by
  cases hidle : m.isIdle r.state with
  | true =>
    obtain ⟨rfl, -⟩ := h.eq_nil hidle
    rw [lineEnd_of_idle hidle]
    exact ⟨List.forall_mem_singleton.mpr trivial, hp.idle (hn _ hidle)⟩
  | false =>
    cases hspans : m.spansNewline r.state with
    | false =>
      rw [lineEnd_of_closes hidle hspans]
      refine ⟨List.forall_mem_cons.mpr ⟨hp.close h.holds hidle, ?_⟩,
        hp.idle (hn _ (m.isIdle_finish r.state))⟩
      exact List.forall_mem_singleton.mpr trivial
    | true =>
      -- the line end belongs to the token, of which there are octets in front of it
      have hnewline : p (run.getD [] ++ r.run ++ ending) (m.newline r.state) :=
        hp.newline h.holds hspans hending
      rw [lineEnd_of_spans hidle hspans]
      split
      · next hrun =>
        obtain ⟨text, rfl⟩ : ∃ text, run = some text := Option.isSome_iff_exists.mp <|
          Bool.not_eq_false _ ▸ fun hclosed => h.showsOpen.run_ne hclosed hidle hrun
        refine ⟨List.forall_mem_nil _, ?_⟩
        simpa [openAfter, hrun] using hnewline
      · refine ⟨List.forall_mem_nil _, ?_⟩
        simpa [openAfter] using hnewline

/-- A step of a reading gives out whole tokens of which `q` holds, and hands on what the state says
of the octets that are open. -/
theorem Reads.isTracked (hp : m.Tracks p q) (hm : m.IsSteady) (hl : m.IsSteadyOverLines)
    (hn : m.IsIdleOverLines) (h : r.IsTracked p run) (hreads : r.Reads input given r' rest) :
    (∀ event ∈ wholesAfter run given, event.IsOf q) ∧ r'.IsTracked p (openAfter run given) := by
  have hsound := hreads.isSound hm h.isSound
  have hopen := hreads.showsOpen hm hl hn h.showsOpen
  rw [← Event.isSome_openAfter] at hopen
  cases hreads with
  | extend hextend =>
    have hjoins : m.continuesLines = true := h.joins fun hnone => by
      simp [hnone, Continuation.extend] at hextend
    refine ⟨List.forall_mem_nil _, hsound, hopen, fun _ => hjoins, ?_⟩
    simpa [openAfter] using hp.join _ hjoins h.holds
  | join hjoined hrest =>
    simp only [joinsLines, Bool.and_eq_true] at hjoined
    refine ⟨List.forall_mem_nil _, hsound, hopen, fun _ => hjoined.1.1, ?_⟩
    simpa [openAfter] using hp.join _ hjoined.1.1 h.holds
  | offer hb hjoins =>
    obtain ⟨hgiven, hnext⟩ := goesOn_offer hp h _
    exact ⟨hgiven, hsound, hopen, fun hne => absurd (continuation_offer r _) hne, hnext⟩
  | lineEnd hend hextend =>
    obtain ⟨hgiven, hnext⟩ := goesOn_lineEnd hp hn h hend.1
    exact ⟨hgiven, hsound, hopen, fun hne => absurd rfl hne, hnext⟩

/-- Of all whole tokens that a reading comes to, `q` holds. -/
theorem IsTracked.forall_mem_wholesAfter (hp : m.Tracks p q) (hm : m.IsSteady)
    (hl : m.IsSteadyOverLines) (hn : m.IsIdleOverLines) (h : r.IsTracked p run) (input : Bytes) :
    ∀ event ∈ wholesAfter run (r.events input), event.IsOf q := by
  induction hlength : input.length using Nat.strongRecOn generalizing r run input with
  | ind n ih =>
    cases input with
    | nil =>
      rw [events, ending]
      split
      · exact List.forall_mem_nil _
      · next hbusy =>
        exact List.forall_mem_singleton.mpr (hp.close h.holds (Bool.not_eq_true _ ▸ hbusy))
    | cons b input =>
      obtain ⟨given, r', rest, hreads⟩ := r.exists_reads b input
      have hnext : Place.Next ⟨[], r, b :: input⟩ ⟨[] ++ given, r', rest⟩ := .reads hreads
      obtain ⟨hgiven, hr'⟩ := hreads.isTracked hp hm hl hn h
      rw [hreads.events_eq, Event.wholesAfter_append, List.forall_mem_append]
      exact ⟨hgiven, ih _ (hlength ▸ hnext.length_lt) hr' rest rfl⟩

end Reading

namespace Machine

/-- No token is left open at the end of an input. -/
theorem openAfter_events (hm : m.IsSteady) (hl : m.IsSteadyOverLines) (buffers : List Bytes) :
    Event.openAfter none (m.events buffers) = none := by
  rw [← Option.not_isSome_iff_eq_none, Event.isSome_openAfter]
  exact Bool.not_eq_true _ ▸ m.isOpenAfter_events hm hl buffers

/-- The whole tokens of an input and its line ends have its octets. -/
theorem source_wholes (hm : m.IsSteady) (hl : m.IsSteadyOverLines) (buffers : List Bytes) :
    Event.source (Event.wholes (m.events buffers)) = buffers.flatten := by
  have hsource := Event.source_wholesAfter none (m.events buffers)
  rw [openAfter_events hm hl, Machine.source_events hm] at hsource
  exact (List.append_nil _).symm.trans hsource

/-- The whole tokens are the same, whatever buffers an input comes in. -/
theorem wholes_events (hm : m.IsSteady) (buffers : List Bytes) :
    Event.wholes (m.events buffers) = Event.wholes (m.events [buffers.flatten]) := by
  rw [← Event.wholes_merged, ← Event.wholes_merged (m.events [buffers.flatten]),
    m.merged_events hm, m.merged_events hm, List.flatten_singleton]

/-- Whatever buffers an input comes in, `q` holds of its whole tokens. -/
theorem Tracks.forall_mem_wholes {p : Bytes → m.State → Prop} {q : m.Kind → Bytes → Prop}
    (hp : m.Tracks p q) (hm : m.IsSteady) (hl : m.IsSteadyOverLines) (hn : m.IsIdleOverLines)
    (hstart : m.isIdle m.start = true) (buffers : List Bytes) :
    ∀ event ∈ Event.wholes (m.events buffers), event.IsOf q := by
  rw [← Event.wholes_merged, m.merged_events hm]
  exact (Reading.isTracked_of_idle hp hstart rfl rfl).forall_mem_wholesAfter hp hm hl hn _

end Machine

end MarkupFeed
