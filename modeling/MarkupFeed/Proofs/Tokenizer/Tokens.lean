import MarkupFeed.Proofs.Tokenizer.Reading

/-!
# What holds of the octets of every token, and that the last one is closed

`Machine.RunsKeep m p` collects what is to be shown of `p`, one law for each way in which the octets
of a token go on: `p` is said of the octets of the token in progress on the current line, given
where the reading stands in a line continuation. The laws carry over to each operation of a reading,
hence to every token it comes to (`Reading.isMadeOf_events`).

At the end of an input no token is left open (`Reading.endsWhole_events`), so that merging has
nothing to hold back there (`Event.EndsWhole.settle_eq`).
-/

namespace MarkupFeed

/-- Whether the event is a token with octets of which `p` holds, or a line end. -/
def Event.IsMadeOf {κ : Type} (p : Bytes → Prop) : Event κ → Prop
  | .token _ text _ => p text
  | .newline text => text ∈ Bytes.lineEnds

theorem Event.IsMadeOf.mono {κ : Type} {p q : Bytes → Prop} {event : Event κ} (h : event.IsMadeOf p)
    (hpq : ∀ text, p text → q text) : event.IsMadeOf q := by
  cases event with
  | token kind text fragment => exact hpq text h
  | newline text => exact h

/-- What is kept of the octets of a token as it goes on. -/
structure Machine.RunsKeep (m : Machine) (p : Continuation → Bytes → Prop) : Prop where
  nil : p .none []
  octet : ∀ {c run b}, p c run → b ≠ Octet.lineFeed → b ≠ Octet.carriageReturn →
    p .none (run ++ [b])
  /-- The backslash of a line continuation. -/
  join : ∀ {c run}, m.continuesLines = true → p c run → p .backslash (run ++ [Octet.backslash])
  /-- What follows the backslash in a line continuation. -/
  extend : ∀ {c next run b}, p c run → c.extend b = some next → p next (run ++ [b])

namespace Reading

variable {m : Machine} {p : Continuation → Bytes → Prop}

/-- The events are tokens that keep to `p`, and the reading does so too. -/
def Kept (p : Continuation → Bytes → Prop) (result : List (Event m.Kind) × Reading m) : Prop :=
  (∀ event ∈ result.1, event.IsMadeOf fun text => ∃ c, p c text)
    ∧ p result.2.continuation result.2.run

variable {r : Reading m} {b : UInt8}

theorem kept_take (hp : m.RunsKeep p) (hr : p r.continuation r.run) (hlf : b ≠ Octet.lineFeed)
    (hcr : b ≠ Octet.carriageReturn) : Kept p (r.take b) := by
  have hmore : p .none (r.run ++ [b]) := hp.octet hr hlf hcr
  unfold take
  split
  · exact ⟨List.forall_mem_nil _, hmore⟩
  · exact ⟨List.forall_mem_singleton.mpr ⟨.none, hmore⟩, hp.nil⟩
  · have hsingle : p .none [b] := hp.octet hp.nil hlf hcr
    exact ⟨List.forall_mem_singleton.mpr ⟨.none, hsingle⟩, hp.nil⟩

theorem kept_offer (hp : m.RunsKeep p) (hr : p r.continuation r.run) (hlf : b ≠ Octet.lineFeed)
    (hcr : b ≠ Octet.carriageReturn) : Kept p (r.offer b) := by
  unfold offer
  split
  · next next _ _ =>
    -- the token in progress is closed in front of the octet
    obtain ⟨hevents, hrest⟩ :=
      @kept_take m p ⟨(m.finish next).2, [], .none⟩ b hp hp.nil hlf hcr
    exact ⟨List.forall_mem_cons.mpr ⟨⟨_, hr⟩, hevents⟩, hrest⟩
  · exact kept_take hp hr hlf hcr

theorem kept_lineEnd (hp : m.RunsKeep p) (hr : p r.continuation r.run) {text : Bytes}
    (htext : text ∈ Bytes.lineEnds) : Kept p (r.lineEnd text) := by
  have hbefore : ∀ event ∈ r.beforeLineEnd.1, event.IsMadeOf fun text => ∃ c, p c text := by
    unfold beforeLineEnd
    split
    · exact List.forall_mem_nil _
    split
    · split
      · exact List.forall_mem_nil _
      · exact List.forall_mem_singleton.mpr ⟨_, hr⟩
    · exact List.forall_mem_singleton.mpr ⟨_, hr⟩
  exact ⟨List.forall_mem_append.mpr ⟨hbefore, List.forall_mem_singleton.mpr htext⟩, hp.nil⟩

theorem kept_advance (hp : m.RunsKeep p) (hr : p r.continuation r.run) (rest : Bytes) :
    Kept p (r.advance b rest) := by
  unfold advance
  split
  · next hend =>
    refine kept_lineEnd hp hr ?_
    rcases hend with rfl | rfl <;> simp [Bytes.lineEnds]
  · next hend =>
    split
    · next hback =>
      obtain ⟨rfl, hjoins, -⟩ := hback
      simp only [joinsLines, Bool.and_eq_true] at hjoins
      exact ⟨List.forall_mem_nil _, hp.join hjoins.1.1 hr⟩
    · rw [not_or] at hend
      exact kept_offer hp hr hend.1 hend.2

/-- Every token of a reading is made of octets as they are kept. -/
theorem isMadeOf_events (hp : m.RunsKeep p) (hr : p r.continuation r.run) (input : Bytes) :
    ∀ event ∈ r.events input, event.IsMadeOf fun text => ∃ c, p c text := by
  fun_induction events r input with
  | case1 r =>
    unfold ending
    split
    · exact List.forall_mem_nil _
    · exact List.forall_mem_singleton.mpr ⟨_, hr⟩
  | case2 r b rest continuation hext ih => exact ih (hp.extend hr hext)
  | case3 r b rest hext hcrlf ih =>
    have hend : Kept p (r.lineEnd [b, Octet.lineFeed]) :=
      kept_lineEnd hp hr (by simp [hcrlf.1, Bytes.lineEnds])
    refine List.forall_mem_append.mpr ⟨hend.1, ?_⟩
    cases rest with
    | nil => exact List.forall_mem_nil _
    | cons next tail => exact ih hend.2
  | case4 r b rest hext hcrlf ih =>
    have hnext : Kept p (r.advance b rest) := kept_advance hp hr rest
    exact List.forall_mem_append.mpr ⟨hnext.1, ih hnext.2⟩

end Reading

/-! ### The end of the events -/

namespace Event

variable {κ : Type}

/-- Whether the last event is not a fragment. -/
def EndsWhole (events : List (Event κ)) : Prop :=
  ∀ event ∈ events.getLast?, event.isFragment = false

theorem EndsWhole.append {events more : List (Event κ)} (h : EndsWhole events)
    (hmore : EndsWhole more) : EndsWhole (events ++ more) := by
  intro event hevent
  rw [List.getLast?_append] at hevent
  rcases hlast : more.getLast? with _ | last
  · rw [hlast] at hevent
    exact h event hevent
  · rw [hlast] at hevent
    exact hmore event (hlast.trans hevent)

theorem endsWhole_of_forall {events : List (Event κ)}
    (h : ∀ event ∈ events, event.isFragment = false) : EndsWhole events :=
  fun event hevent => h event (List.mem_of_getLast? hevent)

/-- Merging events that end whole leaves no run open. -/
theorem EndsWhole.settle_eq {run : Option (κ × Bytes)} {events : List (Event κ)}
    (h : EndsWhole (mergedAfter run events)) :
    settle run events = (mergedAfter run events, none) := by
  have hmerged : mergedAfter run events
      = (settle run events).1 ++ interrupted (settle run events).2 := by
    have happend := mergedAfter_append run events []
    rw [List.append_nil] at happend
    rw [happend, mergedAfter]
  rcases hopen : (settle run events).2 with _ | ⟨kind, text⟩
  · rw [hmerged, hopen, interrupted, List.append_nil, ← hopen]
  · -- the open run would be the last event, as a fragment
    rw [hopen, interrupted] at hmerged
    exact absurd (h (.token kind text true) (by rw [hmerged]; simp)) (by simp [isFragment])

end Event

namespace Reading

variable {m : Machine}

theorem isFragment_take (r : Reading m) (b : UInt8) :
    ∀ event ∈ (r.take b).1, event.isFragment = false := by
  unfold take
  split
  · exact List.forall_mem_nil _
  · exact List.forall_mem_singleton.mpr rfl
  · exact List.forall_mem_singleton.mpr rfl

theorem isFragment_offer (r : Reading m) (b : UInt8) :
    ∀ event ∈ (r.offer b).1, event.isFragment = false := by
  unfold offer
  split
  · exact List.forall_mem_cons.mpr ⟨rfl, isFragment_take _ b⟩
  · exact isFragment_take r b

theorem endsWhole_lineEnd (r : Reading m) (text : Bytes) : Event.EndsWhole (r.lineEnd text).1 := by
  intro event hevent
  rw [lineEnd, List.getLast?_concat] at hevent
  obtain rfl := Option.some.inj hevent
  rfl

theorem endsWhole_advance (r : Reading m) (b : UInt8) (rest : Bytes) :
    Event.EndsWhole (r.advance b rest).1 := by
  unfold advance
  split
  · exact endsWhole_lineEnd r [b]
  split
  · exact Event.endsWhole_of_forall (List.forall_mem_nil _)
  · exact Event.endsWhole_of_forall (isFragment_offer r b)

/-- Only a line end leaves a token open, and it comes after the token itself. -/
theorem endsWhole_events (r : Reading m) (input : Bytes) : Event.EndsWhole (r.events input) := by
  fun_induction events r input with
  | case1 r =>
    unfold ending
    split
    · exact Event.endsWhole_of_forall (List.forall_mem_nil _)
    · exact Event.endsWhole_of_forall (List.forall_mem_singleton.mpr rfl)
  | case2 r b rest continuation hext ih => exact ih
  | case3 r b rest hext hcrlf ih =>
    refine (endsWhole_lineEnd r _).append ?_
    cases rest with
    | nil => exact Event.endsWhole_of_forall (List.forall_mem_nil _)
    | cons next tail => exact ih
  | case4 r b rest hext hcrlf ih => exact (endsWhole_advance r b rest).append ih

end Reading

end MarkupFeed
