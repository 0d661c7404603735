import MarkupFeed.Proofs.Format.Steady
import MarkupFeed.Proofs.Tokenizer.Invariant
import MarkupFeed.Proofs.Tokenizer.Places

/-!
# How the events of an input fall into tokens

A reading that has left a token open is inside one (`Place.Reaches.isIdle_eq_false`). At the end of
the input it closes the token, and at a line end it does so too, unless the token outlives the line;
hence a line end stands between two pieces of a token only where the machine says so
(`Machine.exists_spansNewline`), and no token is left open (`Machine.isOpenAfter_events`). Merging
makes no difference to either. That no fragment is empty is kept by every octet
(`Machine.keeps_ne_nil`), and a tokenizer that has something pending reports something at the end
(`Tokenizer.flush_ne_nil_iff`). The main result, `Format.exists_groups_events`, says all this of
the formats.
-/

namespace MarkupFeed

variable {m : Machine}

/-- A line end does not take a machine out of a token. -/
def Machine.IsSteadyOverLines (m : Machine) : Prop :=
  ∀ s, m.isIdle s = false → m.isIdle (m.newline s) = false

/-! ### Open tokens -/

namespace Reading

variable {r r' : Reading m} {input rest : Bytes} {given : List (Event m.Kind)} {isOpen : Bool}

/-- A token that is open in front of a line end is one that outlives it. -/
theorem spansNewline_of_isOpenAfter (hr : isOpen = true → m.isIdle r.state = false)
    (h : Event.isOpenAfter isOpen r.beforeLineEnd.1 = true) :
    m.spansNewline r.state = true ∧ m.isIdle r.beforeLineEnd.2 = false := by
  unfold beforeLineEnd at h ⊢
  split at h
  · next hidle => exact absurd hidle (by simp [hr h])
  · next hidle =>
    split at h
    · next hspans =>
      rw [if_neg hidle, if_pos hspans]
      exact ⟨hspans, Bool.not_eq_true _ ▸ hidle⟩
    · exact absurd h (by simp [Event.isOpenAfter])

/-- An octet leaves a token open only if it belongs to it. -/
theorem isIdle_take (hm : m.IsSteady) {b : UInt8}
    (h : Event.isOpenAfter isOpen (r.take b).1 = true) : m.isIdle (r.take b).2.state = false := by
  cases hstep : m.step r.state b with
  | shift next =>
    simp only [take, hstep]
    exact hm.busy hstep
  | accept next => exact absurd h (by simp [take, hstep, Event.isOpenAfter])
  | reject next => exact absurd h (by simp [take, hstep, Event.isOpenAfter])

theorem isIdle_offer (hm : m.IsSteady) {b : UInt8}
    (h : Event.isOpenAfter isOpen (r.offer b).1 = true) : m.isIdle (r.offer b).2.state = false := by
  unfold offer at h ⊢
  split at h
  · exact isIdle_take hm h
  · exact isIdle_take hm h

/-- A step that leaves a token open leaves the machine inside it. -/
theorem Reads.isIdle_eq_false (hm : m.IsSteady) (hl : m.IsSteadyOverLines)
    (hr : isOpen = true → m.isIdle r.state = false) (h : r.Reads input given r' rest)
    (hopen : Event.isOpenAfter isOpen given = true) : m.isIdle r'.state = false := by
  cases h with
  | extend hextend => exact hr hopen
  | join hjoins hrest => exact hr hopen
  | offer hb hjoins => exact isIdle_offer hm hopen
  | lineEnd hend hextend =>
    rw [Reading.lineEnd, Event.isOpenAfter_append] at hopen
    exact hl _ (spansNewline_of_isOpenAfter hr hopen).2

namespace Place

variable {p q : Place m}

/-- A reading that has left a token open is inside one. -/
theorem Reaches.isIdle_eq_false (hm : m.IsSteady) (hl : m.IsSteadyOverLines)
    (h : (start m input).Reaches q) (hopen : Event.isOpenAfter false q.given = true) :
    m.isIdle q.reading.state = false := by
  induction h with
  | refl => exact absurd hopen (by simp [start, Event.isOpenAfter])
  | tail _ hnext ih =>
    cases hnext with
    | reads hreads =>
      rw [Event.isOpenAfter_append] at hopen
      exact hreads.isIdle_eq_false hm hl ih hopen

end Place

/-- Every step of a reading hands on that lines are joined inside tokens only. -/
theorem isCarried_isSound (hm : m.IsSteady) : IsCarried fun (r : Reading m) _ => r.IsSound where
  reads hr h := h.isSound hm hr
  forget hr _ := ⟨hr.of_idle, fun hne => absurd rfl hne⟩

/-- The end of the input closes the token in progress. -/
theorem isOpenAfter_ending (hr : isOpen = true → m.isIdle r.state = false) :
    Event.isOpenAfter isOpen r.ending = false := by
  unfold ending
  split
  · next hidle => exact Bool.eq_false_iff.mpr fun hopen => absurd hidle (by simp [hr hopen])
  · rfl

end Reading

namespace Machine

open Reading (Place)

/-- No token is left open at the end of an input. -/
theorem isOpenAfter_events (hm : m.IsSteady) (hl : m.IsSteadyOverLines) (buffers : List Bytes) :
    Event.isOpenAfter false (m.events buffers) = false := by
  have hmerged := Event.isOpenAfter_mergedAfter false none (m.events buffers)
  rw [← Event.merged, m.merged_events hm] at hmerged
  obtain ⟨q, hreach, hrest⟩ := (Place.start m buffers.flatten).exists_reaches_end
  have hevents : Reading.events {} buffers.flatten = q.given ++ q.reading.ending := by
    have hevents := hreach.events_eq
    rw [hrest] at hevents
    exact hevents
  rw [hevents, Event.isOpenAfter_append,
    Reading.isOpenAfter_ending (Place.Reaches.isIdle_eq_false hm hl hreach)] at hmerged
  exact hmerged.symm

/-- A line end stands between two pieces of a token only where the machine, in front of it, says
that the token outlives it. -/
theorem exists_spansNewline (hm : m.IsSteady) (hl : m.IsSteadyOverLines) {buffers : List Bytes}
    {before after : List (Event m.Kind)} {text : Bytes}
    (h : m.events buffers = before ++ .newline text :: after)
    (hopen : Event.isOpenAfter false before = true) :
    ∃ b ∈ text.head?, m.spansNewline (m.stateBefore (Event.source before) b) = true := by
  obtain ⟨q, rest, hreach, -, hbefore, -, -, b, hb, hstate⟩ := m.exists_reaches_of_newline hm h
  have hmerged : Event.isOpenAfter false (Event.merged before) = true :=
    (Event.isOpenAfter_mergedAfter false none before).trans hopen
  rw [hbefore, Event.isOpenAfter_append] at hmerged
  have hspans := Reading.spansNewline_of_isOpenAfter
    (Place.Reaches.isIdle_eq_false hm hl hreach) hmerged
  exact ⟨b, hb, hstate ▸ hspans.1⟩

/-- A fragment has octets. -/
theorem keeps_ne_nil (m : Machine) :
    m.Keeps (fun _ _ => True) fun event => event.isFragment = true → event.text ≠ [] where
  start := trivial
  shift _ _ := trivial
  accept _ _ := ⟨fun h => absurd h (by simp [Event.isFragment]), trivial⟩
  reject _ _ _ := ⟨fun h => absurd h (by simp [Event.isFragment]), trivial⟩
  refuse _ _ _ := ⟨fun h => absurd h (by simp [Event.isFragment]), trivial⟩
  close _ _ := ⟨fun h => absurd h (by simp [Event.isFragment]), trivial⟩
  interrupt _ _ hpiece _ := hpiece
  drop _ := trivial
  newline _ _ := ⟨fun h => absurd h (by simp [Event.isFragment]), trivial⟩
  join _ _ _ := trivial

end Machine

/-! ### The end of the input -/

namespace Tokenizer

namespace Scan

/-- Whether the scan has found something, or is inside a token. -/
def HasSome (s : Scan m) : Prop := s.found ≠ [] ∨ m.isIdle s.state = false

variable {s : Scan m}

theorem hasSome_interrupt (h : s.HasSome) : s.interrupt.HasSome := by
  unfold interrupt
  split
  · exact h
  · exact .inl (List.cons_ne_nil _ _)

theorem hasSome_take (hm : m.IsSteady) (s : Scan m) (b : UInt8) : (s.take b).HasSome := by
  unfold take
  split
  · next next hstep => exact .inr (hm.busy hstep)
  · exact .inl (List.cons_ne_nil _ _)
  · exact .inl (List.cons_ne_nil _ _)

theorem hasSome_offer (hm : m.IsSteady) (s : Scan m) (b : UInt8) : (s.offer b).HasSome := by
  unfold offer
  split
  · exact hasSome_take hm _ b
  · exact hasSome_take hm s b

/-- Of the last octet of an input something is found, or it belongs to a token. -/
theorem hasSome_run_over (hm : m.IsSteady) (hs : s.continuation ≠ .none → m.isIdle s.state = false)
    (b : UInt8) : (Scan.run .over [b] s).HasSome := by
  have hoctet : ∃ s', s.advance b .over = .octet s' ∧ s'.HasSome := by
    unfold advance
    split
    · next continuation hextend =>
      refine ⟨_, rfl, .inr (hs fun hnone => ?_)⟩
      simp [hnone, Continuation.extend] at hextend
    · dsimp only
      split
      · exact ⟨_, rfl, .inl (List.cons_ne_nil _ _)⟩
      split
      · rw [if_neg (by simp), if_neg (by simp)]
        exact ⟨_, rfl, .inl (List.cons_ne_nil _ _)⟩
      split
      · rw [if_neg (by simp), if_neg (by simp)]
        exact ⟨_, rfl, hasSome_offer hm _ b⟩
      · exact ⟨_, rfl, hasSome_offer hm _ b⟩
  obtain ⟨s', hadvance, hsome⟩ := hoctet
  rw [Scan.run, List.head?_nil, Option.elim_none, hadvance]
  exact hasSome_interrupt hsome

end Scan

variable {t : Tokenizer m}

/-- Nothing is held back at the end of the input. -/
theorem held_release_over (t : Tokenizer m) : (t.release .over).held = none := by
  have hcarries : t.Carries (fun _ _ => True) [] := ⟨[], trivial⟩
  have hfits : Ahead.over.Fits [] := rfl
  exact (hcarries.release Reading.isCarried_true hfits).held_eq (by simp)

/-- Nothing is pending behind the end of the input. -/
theorem isPending_flush (t : Tokenizer m) : t.flush.1.isPending = false := by
  have hheld := t.held_release_over
  unfold flush isPending
  dsimp only
  split
  · next hidle => simp [hheld, hidle]
  · simp [hheld, m.isIdle_finish]

/-- The end of the input makes a report if something was pending. -/
theorem flush_ne_nil_iff (hm : m.IsSteady)
    (ht : t.continuation ≠ .none → m.isIdle t.state = false) :
    t.flush.2 ≠ [] ↔ t.isPending = true := by
  have hsome : t.flush.2 ≠ [] ↔ (t.release .over).HasSome := by
    unfold flush Scan.HasSome
    dsimp only
    cases m.isIdle (t.release .over).state <;> simp
  rw [hsome, isPending, Bool.or_eq_true, Bool.not_eq_true']
  unfold Tokenizer.release
  cases hheld : t.held with
  | none => simp [Scan.HasSome]
  | some b =>
    have hheld : (Scan.run .over [b] { t with held := none, length := 1, first := 0 }).HasSome :=
      Scan.hasSome_run_over hm ht b
    exact ⟨fun _ => .inl rfl, fun _ => hheld⟩

/-- Lines are joined inside tokens only, also between two buffers. -/
theorem isIdle_feedAll (hm : m.IsSteady) (buffers : List Bytes) :
    ((fresh m).feedAll buffers).1.continuation ≠ .none →
      m.isIdle ((fresh m).feedAll buffers).1.state = false := by
  have hfresh : (fresh m).Carries (fun r _ => r.IsSound) (buffers.flatten ++ []) :=
    ⟨[], Reading.isSound_of_run_eq_nil rfl rfl⟩
  obtain ⟨run, hsound⟩ := hfresh.feedAll (Reading.isCarried_isSound hm)
  exact hsound.of_continuation

end Tokenizer

/-! ### The formats -/

namespace Format

/-- No format forgets a token at a line end. -/
theorem isSteadyOverLines_machine (style : Cpp.Style) (format : Format) :
    (format.machine style).IsSteadyOverLines := by
  intro s h
  cases format with
  | cpp =>
    cases s with
    | blockCommentStar => rfl
    | _ => exact h
  | xml =>
    obtain ⟨inTag, token⟩ := s
    cases token with
    | commentDash | commentDashes => rfl
    | _ => exact h
  | _ => exact h

/-- The events of an input, whatever buffers it comes in, are whole tokens and line ends: a token is
any number of fragments and a last piece, and there are line ends within it only while the machine
says that it outlives them. Every fragment has octets. When the end of the input was declared
nothing is pending, and something is reported then if and only if something was pending. -/
theorem exists_groups_events (style : Cpp.Style) (format : Format) (buffers : List Bytes) :
    let m := format.machine style
    let t := ((Tokenizer.fresh m).feedAll buffers).1
    (∃ groups, m.events buffers = List.flatten groups ∧ Event.AreGroups groups)
      ∧ (∀ before text after, m.events buffers = before ++ .newline text :: after →
          Event.isOpenAfter false before = true →
          ∃ b ∈ text.head?, m.spansNewline (m.stateBefore (Event.source before) b) = true)
      ∧ (∀ kind text, .token kind text true ∈ m.events buffers → text ≠ [])
      ∧ t.flush.1.isPending = false
      ∧ (t.flush.2 ≠ [] ↔ t.isPending = true) := by
  have hm := isSteady_machine style format
  have hl := isSteadyOverLines_machine style format
  have hflush := Tokenizer.flush_ne_nil_iff hm (Tokenizer.isIdle_feedAll hm buffers)
  refine ⟨Event.exists_groups (Machine.isOpenAfter_events hm hl buffers), ?_, ?_,
    Tokenizer.isPending_flush _, hflush⟩
  · intro before text after h hopen
    exact Machine.exists_spansNewline hm hl h hopen
  · intro kind text hmem
    exact (Machine.keeps_ne_nil _).forall_mem_events buffers _ hmem rfl

end Format

end MarkupFeed
