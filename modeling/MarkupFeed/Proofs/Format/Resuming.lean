import MarkupFeed.Proofs.Format.Restarting

/-!
# Reading on behind a token

What follows a token is read as if nothing had been read before it.

Wherever the events of an input leave no token open, those that follow are the events of a reading
that begins there between tokens (`Reading.Resumes`). One step of a reading gives out a few events,
and the claim holds between any two of them (`Reading.Reads.resumes`); that a token is in progress
shows in the events or in the octets that are not given out yet (`Reading.ShowsOpen`), which carries
it from step to step: `Reading.resumes_of_append`. For an input in buffers this is
`Machine.exists_events_eq`.
-/

namespace MarkupFeed

variable {m : Machine}

/-- A line end does not take a machine into a token. -/
def Machine.IsIdleOverLines (m : Machine) : Prop :=
  ∀ s, m.isIdle s = true → m.isIdle (m.newline s) = true

namespace Reading

/-- The events are those of a reading that begins between tokens. -/
def Resumes (m : Machine) (events : List (Event m.Kind)) : Prop :=
  ∃ s input, m.isIdle s = true ∧ events = Reading.events ⟨s, [], .none⟩ input

/-- Whether a token is in progress shows: a piece of it is given out, or some octets of it are
there. -/
structure ShowsOpen (r : Reading m) (isOpen : Bool) : Prop where
  isIdle_eq : isOpen = true → m.isIdle r.state = false
  run_ne : isOpen = false → m.isIdle r.state = false → r.run ≠ []

variable {r r' : Reading m} {input rest : Bytes} {given before later : List (Event m.Kind)}
  {isOpen : Bool} {b : UInt8}

theorem resumes_events (hr : r.IsSound) (hidle : m.isIdle r.state = true) (input : Bytes) :
    Resumes m (r.events input) := by
  obtain ⟨state, run, continuation⟩ := r
  obtain rfl : run = [] := hr.of_idle hidle
  have hnone : continuation = .none := Decidable.of_not_not fun hne =>
    absurd hidle (by simp [hr.of_continuation hne])
  exact ⟨state, input, hidle, hnone ▸ rfl⟩

/-- A reading that gives out an event with an octet is between tokens behind it. -/
theorem eq_nil_of_take {more : List (Event m.Kind)} (h : (r.take b).1 = before ++ more)
    (hne : before ≠ []) : more = [] ∧ m.isIdle (r.take b).2.state = true := by
  obtain ⟨event, before, rfl⟩ := List.exists_cons_of_ne_nil hne
  cases hstep : m.step r.state b with
  | shift next => exact absurd h (by simp [take, hstep])
  | accept next =>
    simp only [take, hstep] at h ⊢
    exact ⟨(List.append_eq_nil_iff.mp (List.cons.inj h).2.symm).2, m.isIdle_finish next⟩
  | reject next =>
    simp only [take, hstep] at h ⊢
    exact ⟨(List.append_eq_nil_iff.mp (List.cons.inj h).2.symm).2, m.isIdle_finish next⟩

/-- An octet is taken, or ends the token in progress and is taken between tokens. -/
theorem offer_eq (r : Reading m) (b : UInt8) :
    r.offer b = r.take b ∨ ∃ kind s, m.isIdle s = true
      ∧ r.offer b = (.token kind r.run false :: (take ⟨s, [], .none⟩ b).1,
        (take ⟨s, [], .none⟩ b).2) := by
  unfold offer
  split
  · next next _ _ => exact .inr ⟨_, _, m.isIdle_finish next, rfl⟩
  · exact .inl rfl

/-- Between tokens, an octet that ends no line is taken. -/
theorem events_of_idle {s : m.State} (hidle : m.isIdle s = true)
    (hb : ¬(b = Octet.lineFeed ∨ b = Octet.carriageReturn)) (rest : Bytes) :
    events ⟨s, [], .none⟩ (b :: rest)
      = (take ⟨s, [], .none⟩ b).1 ++ (take ⟨s, [], .none⟩ b).2.events rest := by
  have hjoins : ¬(b = Octet.backslash ∧ joinsLines (⟨s, [], .none⟩ : Reading m) = true
      ∧ atLineEnd rest = true) := by
    simp [joinsLines, hidle]
  have hreads := (Reads.offer (r := ⟨s, [], .none⟩) hb hjoins).events_eq
  simp only [offer, hidle] at hreads
  exact hreads

/-! ### Line ends -/

section LineEnd

variable {text : Bytes}

theorem lineEnd_of_idle (h : m.isIdle r.state = true) (text : Bytes) :
    r.lineEnd text = ([.newline text], ⟨m.newline r.state, [], .none⟩) := by
  simp [lineEnd, beforeLineEnd, h]

theorem lineEnd_of_closes (hbusy : m.isIdle r.state = false)
    (hspans : m.spansNewline r.state = false) (text : Bytes) :
    r.lineEnd text = ([.token (m.finish r.state).1 r.run false, .newline text],
      ⟨m.newline (m.finish r.state).2, [], .none⟩) := by
  simp [lineEnd, beforeLineEnd, hbusy, hspans]

theorem lineEnd_of_spans (hbusy : m.isIdle r.state = false) (hspans : m.spansNewline r.state = true)
    (text : Bytes) :
    r.lineEnd text = ((if r.run = [] then [] else [.token (m.kind r.state) r.run true])
      ++ [.newline text], ⟨m.newline r.state, [], .none⟩) := by
  simp [lineEnd, beforeLineEnd, hbusy, hspans]

/-- Between tokens, a line end is given out. -/
theorem events_lineEnd_of_idle {s : m.State} (hidle : m.isIdle s = true)
    (hend : EndsLine text rest) :
    events ⟨s, [], .none⟩ (text ++ rest)
      = .newline text :: events ⟨m.newline s, [], .none⟩ rest := by
  have hreads := (Reads.lineEnd (r := (⟨s, [], .none⟩ : Reading m)) hend fun _ _ => rfl).events_eq
  rwa [lineEnd_of_idle hidle] at hreads

/-- A token that outlives a line end is open in front of it and behind it. -/
theorem isOpenAfter_lineEnd (hopen : r.ShowsOpen isOpen) (hbusy : m.isIdle r.state = false)
    (hspans : m.spansNewline r.state = true) {more : List (Event m.Kind)}
    (hgiven : (r.lineEnd text).1 = before ++ more) (hne : before ≠ []) :
    Event.isOpenAfter isOpen before = true := by
  obtain ⟨event, before, rfl⟩ := List.exists_cons_of_ne_nil hne
  rw [lineEnd_of_spans hbusy hspans] at hgiven
  by_cases hrun : r.run = []
  · -- all of the token is given out by then
    have hopen : isOpen = true := eq_true_of_ne_false fun h => hopen.run_ne h hbusy hrun
    rw [if_pos hrun] at hgiven
    obtain ⟨rfl, hnil⟩ : .newline text = event ∧ [] = before ++ more := List.cons.inj hgiven
    obtain ⟨rfl, -⟩ := List.append_eq_nil_iff.mp hnil.symm
    exact hopen
  · rw [if_neg hrun] at hgiven
    obtain ⟨rfl, htail⟩ : .token (m.kind r.state) r.run true = event
      ∧ [.newline text] = before ++ more := List.cons.inj hgiven
    rcases List.append_eq_singleton_iff.mp htail.symm with ⟨rfl, -⟩ | ⟨rfl, -⟩
    · rfl
    · rfl

/-- Where a line end gives out events that leave no token open, the reading is between tokens in
front of the line end or behind it. -/
theorem resumes_lineEnd (hn : m.IsIdleOverLines) (hopen : r.ShowsOpen isOpen)
    (hend : EndsLine text rest) {more : List (Event m.Kind)}
    (hgiven : (r.lineEnd text).1 = before ++ more) (hne : before ≠ [])
    (hclosed : Event.isOpenAfter isOpen before = false) :
    Resumes m (more ++ (r.lineEnd text).2.events rest) := by
  cases hidle : m.isIdle r.state with
  | true =>
    rw [lineEnd_of_idle hidle] at hgiven ⊢
    obtain ⟨event, before, rfl⟩ := List.exists_cons_of_ne_nil hne
    obtain ⟨-, hgiven⟩ := List.cons.inj hgiven
    obtain ⟨-, rfl⟩ := List.append_eq_nil_iff.mp hgiven.symm
    exact ⟨_, rest, hn _ hidle, rfl⟩
  | false =>
    have hspans : m.spansNewline r.state = false := Bool.eq_false_iff.mpr fun hspans =>
      absurd hclosed (by simp [isOpenAfter_lineEnd hopen hidle hspans hgiven hne])
    have hfinish : m.isIdle (m.finish r.state).2 = true := m.isIdle_finish _
    rw [lineEnd_of_closes hidle hspans] at hgiven ⊢
    obtain ⟨event, before, rfl⟩ := List.exists_cons_of_ne_nil hne
    obtain ⟨-, hgiven⟩ := List.cons.inj hgiven
    cases before with
    | nil =>
      obtain rfl : [.newline text] = more := hgiven
      exact ⟨_, text ++ rest, hfinish, (events_lineEnd_of_idle hfinish hend).symm⟩
    | cons _ before =>
      obtain ⟨-, hgiven⟩ := List.cons.inj hgiven
      obtain ⟨-, rfl⟩ := List.append_eq_nil_iff.mp hgiven.symm
      exact ⟨_, rest, hn _ hfinish, rfl⟩

end LineEnd

/-! ### One step -/

/-- Behind the first of the events that a step gives out, as soon as they leave no token open,
there are those of a reading that begins between tokens. -/
theorem Reads.resumes (hm : m.IsSteady) (hn : m.IsIdleOverLines) (hr : r.IsSound)
    (hopen : r.ShowsOpen isOpen) (h : r.Reads input given r' rest) {more : List (Event m.Kind)}
    (hgiven : given = before ++ more) (hne : before ≠ [])
    (hclosed : Event.isOpenAfter isOpen before = false) :
    Resumes m (more ++ r'.events rest) := by
  have hr' : r'.IsSound := h.isSound hm hr
  cases h with
  | extend hextend => exact absurd (List.append_eq_nil_iff.mp hgiven.symm).1 hne
  | join hjoins hrest => exact absurd (List.append_eq_nil_iff.mp hgiven.symm).1 hne
  | lineEnd hend hextend => exact resumes_lineEnd hn hopen hend hgiven hne hclosed
  | @offer b rest hb hjoins =>
    rcases r.offer_eq b with htake | ⟨kind, s, hidle, htake⟩
    · rw [htake] at hgiven hr' ⊢
      obtain ⟨rfl, hidle⟩ := eq_nil_of_take hgiven hne
      exact resumes_events hr' hidle rest
    · rw [htake] at hgiven hr' ⊢
      obtain ⟨event, before, rfl⟩ := List.exists_cons_of_ne_nil hne
      obtain ⟨-, hgiven⟩ := List.cons.inj hgiven
      cases before with
      | nil => exact ⟨s, b :: rest, hidle, by rw [events_of_idle hidle hb, hgiven]; rfl⟩
      | cons _ before =>
        obtain ⟨rfl, hidle'⟩ := eq_nil_of_take hgiven (List.cons_ne_nil _ _)
        exact resumes_events hr' hidle' rest

/-- Of the token that an octet leaves in progress there are octets. -/
theorem run_take_ne (h : m.isIdle (r.take b).2.state = false) : (r.take b).2.run ≠ [] := by
  cases hstep : m.step r.state b with
  | shift next => simp [take, hstep]
  | accept next => simp [take, hstep, m.isIdle_finish] at h
  | reject next => simp [take, hstep, m.isIdle_finish] at h

/-- That a token is in progress shows behind the events of a step too. -/
theorem Reads.showsOpen (hm : m.IsSteady) (hl : m.IsSteadyOverLines) (hn : m.IsIdleOverLines)
    (hopen : r.ShowsOpen isOpen) (h : r.Reads input given r' rest) :
    r'.ShowsOpen (Event.isOpenAfter isOpen given) where
  isIdle_eq := h.isIdle_eq_false hm hl hopen.isIdle_eq
  run_ne hclosed hbusy := by
    cases h with
    | extend hextend => simp
    | join hjoins hrest => simp
    | @offer b rest hb hjoins =>
      rcases r.offer_eq b with htake | ⟨kind, s, -, htake⟩
      · rw [htake] at hbusy ⊢
        exact run_take_ne hbusy
      · rw [htake] at hbusy ⊢
        exact run_take_ne hbusy
    | @lineEnd text rest hend hextend =>
      cases hidle : m.isIdle r.state with
      | true =>
        rw [lineEnd_of_idle hidle] at hbusy
        exact absurd (hn _ hidle) (by simp [hbusy])
      | false =>
        cases hspans : m.spansNewline r.state with
        | true =>
          have hgiven : (r.lineEnd text).1 = (r.lineEnd text).1 ++ [] := (List.append_nil _).symm
          have hne : (r.lineEnd text).1 ≠ [] := List.concat_ne_nil _ _
          exact absurd hclosed (by simp [isOpenAfter_lineEnd hopen hidle hspans hgiven hne])
        | false =>
          rw [lineEnd_of_closes hidle hspans] at hbusy
          exact absurd (hn _ (m.isIdle_finish r.state)) (by simp [hbusy])

/-! ### All of an input -/

/-- Behind events that leave no token open there are those of a reading that begins between
tokens. -/
theorem resumes_of_append (hm : m.IsSteady) (hl : m.IsSteadyOverLines) (hn : m.IsIdleOverLines)
    (hr : r.IsSound) (hopen : r.ShowsOpen isOpen) (h : r.events input = before ++ later)
    (hne : before ≠ []) (hclosed : Event.isOpenAfter isOpen before = false) :
    Resumes m later := by
  induction hlength : input.length using Nat.strongRecOn
    generalizing r input before isOpen with
  | ind n ih =>
    cases input with
    | nil =>
      -- all that is left is the end of the token in progress
      have hidle : m.isIdle (m.finish r.state).2 = true := m.isIdle_finish r.state
      obtain rfl : later = [] := by
        rw [events, ending] at h
        split at h
        · exact (List.append_eq_nil_iff.mp h.symm).2
        · rcases List.append_eq_singleton_iff.mp h.symm with ⟨hnil, -⟩ | ⟨-, hnil⟩
          · exact absurd hnil hne
          · exact hnil
      exact ⟨_, [], hidle, by rw [events, ending, if_pos hidle]⟩
    | cons b input =>
      obtain ⟨given, r', rest, hreads⟩ := r.exists_reads b input
      have hnext : Place.Next ⟨[], r, b :: input⟩ ⟨[] ++ given, r', rest⟩ := .reads hreads
      rw [hreads.events_eq] at h
      rcases List.append_eq_append_iff.mp h with ⟨middle, rfl, hrest⟩ | ⟨more, hgiven, rfl⟩
      · cases middle with
        | nil =>
          rw [List.append_nil] at hne hclosed
          rw [List.nil_append] at hrest
          exact hrest ▸ hreads.resumes hm hn hr hopen (List.append_nil _).symm hne hclosed
        | cons event middle =>
          rw [Event.isOpenAfter_append] at hclosed
          exact ih _ (hlength ▸ hnext.length_lt) (hreads.isSound hm hr)
            (hreads.showsOpen hm hl hn hopen) hrest (List.cons_ne_nil _ _) hclosed rfl
      · exact hreads.resumes hm hn hr hopen hgiven hne hclosed

end Reading

/-- Whatever buffers an input comes in, behind merged events that leave no token open there are
those of the octets that are left, read from between two tokens. -/
theorem Machine.exists_events_eq (hm : m.IsSteady) (hl : m.IsSteadyOverLines)
    (hn : m.IsIdleOverLines) (hstart : m.isIdle m.start = true) {buffers : List Bytes}
    {before later : List (Event m.Kind)} (h : Event.merged (m.events buffers) = before ++ later)
    (hclosed : Event.isOpenAfter false before = false) :
    ∃ s, m.isIdle s = true ∧ later = Reading.events ⟨s, [], .none⟩ (Event.source later) := by
  rw [m.merged_events hm] at h
  have hsound : Reading.IsSound ({} : Reading m) := Reading.isSound_of_run_eq_nil rfl rfl
  have hresumes : Reading.Resumes m later := by
    cases before with
    | nil => exact ⟨m.start, buffers.flatten, hstart, h.symm⟩
    | cons event before =>
      have hopen : Reading.ShowsOpen ({} : Reading m) false :=
        ⟨(nomatch ·), fun _ hbusy => absurd hstart (by simp [hbusy])⟩
      exact Reading.resumes_of_append hm hl hn hsound hopen h (List.cons_ne_nil _ _) hclosed
  obtain ⟨s, input, hidle, rfl⟩ := hresumes
  refine ⟨s, hidle, ?_⟩
  rw [Reading.source_events hm (Reading.isSound_of_run_eq_nil rfl rfl), List.nil_append]

/-! ### The formats -/

namespace Format

/-- No format begins a token at a line end. -/
theorem isIdleOverLines_machine (style : Cpp.Style) (format : Format) :
    (format.machine style).IsIdleOverLines := by
  intro s h
  cases format with
  | cpp =>
    obtain rfl : s = Cpp.State.idle := eq_of_beq (α := Cpp.State) h
    rfl
  | xml =>
    obtain ⟨inTag, token⟩ := s
    obtain rfl : token = .idle := beq_iff_eq.mp h
    rfl
  | _ => exact h

end Format

end MarkupFeed
