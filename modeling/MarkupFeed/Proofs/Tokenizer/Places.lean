import Mathlib.Logic.Relation
import MarkupFeed.Proofs.Tokenizer.Chunking
import MarkupFeed.Proofs.Tokenizer.Continuations
import MarkupFeed.Proofs.Tokenizer.Pieces
import MarkupFeed.Proofs.Tokenizer.Standing

/-!
# The places of an input, and the state a machine is in there

A reading goes from place to place (`Place.Next`), and no place has two successors, so that the
number of octets still to be read tells which place it is (`Reaches.eq_of_length_eq`). The state of
the machine at a place can be seen without the rest of the input: it is the one a tokenizer is in
that has been fed the octets in front, once it knows which octet comes next (`Machine.stateBefore`,
`exists_reaches_stateBefore`).

Where a reading gives out a line end, it stands in front of one (`exists_reaches_of_newline`).
-/

namespace MarkupFeed

variable {m : Machine}

/-- The state of the machine in front of an octet, when the octets before it are read. -/
def Machine.stateBefore (m : Machine) (front : Bytes) (b : UInt8) : m.State :=
  (((Tokenizer.fresh m).feed front).1.release (.octet b)).state

namespace Reading

variable {r r' : Reading m} {input rest : Bytes} {given : List (Event m.Kind)}

/-! ### What a step reads and keeps -/

/-- A step takes octets off the input. The octet before the rest is a CR in front of an LF only in a
line continuation. -/
theorem Reads.exists_read (h : r.Reads input given r' rest) :
    ∃ read, input = read ++ rest ∧ read ≠ []
      ∧ (read.getLast? = some Octet.carriageReturn → rest.head? = some Octet.lineFeed →
        r'.continuation = .carriageReturn) := by
  cases h with
  | @extend b continuation rest hextend =>
    refine ⟨[b], rfl, by simp, fun hlast _ => ?_⟩
    obtain rfl : b = Octet.carriageReturn := by simpa using hlast
    cases hc : r.continuation with
    | none => exact absurd hextend (by simp [hc, Continuation.extend])
    | backslash =>
      rw [hc] at hextend
      exact (Option.some.inj hextend).symm
    | carriageReturn =>
      rw [hc, Continuation.extend, if_neg (by decide)] at hextend
      exact absurd hextend (by simp)
  | @lineEnd text rest hend hextend =>
    obtain ⟨b, tail, hcons⟩ := hend.exists_eq_cons
    refine ⟨text, rfl, by simp [hcons], fun hlast hrest => ?_⟩
    have htext := hend.1
    simp only [Bytes.lineEnds, List.mem_cons, List.not_mem_nil, or_false] at htext
    rcases htext with rfl | rfl | rfl
    · exact absurd hlast (by decide)
    · exact absurd hrest (hend.2 rfl)
    · exact absurd hlast (by decide)
  | join hjoins hrest => exact ⟨[Octet.backslash], rfl, by simp, fun h => absurd h (by decide)⟩
  | @offer b rest hb hjoins =>
    exact ⟨[b], rfl, by simp, fun hlast => absurd (.inr (by simpa using hlast)) hb⟩

theorem Reads.isSound (hm : m.IsSteady) (hr : r.IsSound) (h : r.Reads input given r' rest) :
    r'.IsSound := by
  cases h with
  | @extend b continuation rest hextend =>
    have hbusy : m.isIdle r.state = false :=
      hr.of_continuation fun hnone => by simp [hnone, Continuation.extend] at hextend
    exact ⟨fun hidle => absurd hidle (by simp [hbusy]), fun _ => hbusy⟩
  | lineEnd hend hextend => exact (lineEnd_spec hr _).2
  | join hjoins hrest =>
    simp only [joinsLines, Bool.and_eq_true, Bool.not_eq_true'] at hjoins
    exact ⟨fun hidle => absurd hidle (by simp [hjoins.1.2]), fun _ => hjoins.1.2⟩
  | offer hb hjoins => exact (offer_spec hm hr _).2

theorem Reads.kept {p : Continuation → Bytes → Prop} (hp : m.RunsKeep p)
    (hr : p r.continuation r.run) (h : r.Reads input given r' rest) :
    p r'.continuation r'.run := by
  cases h with
  | extend hextend => exact hp.extend hr hextend
  | lineEnd hend hextend => exact (kept_lineEnd hp hr hend.1).2
  | join hjoins hrest =>
    simp only [joinsLines, Bool.and_eq_true] at hjoins
    exact hp.join hjoins.1.1 hr
  | offer hb hjoins =>
    rw [not_or] at hb
    exact (kept_offer hp hr hb.1 hb.2).2

theorem isNewline_take (r : Reading m) (b : UInt8) :
    ∀ event ∈ (r.take b).1, event.isNewline = false := by
  unfold take
  split
  · exact List.forall_mem_nil _
  · exact List.forall_mem_singleton.mpr rfl
  · exact List.forall_mem_singleton.mpr rfl

theorem isNewline_offer (r : Reading m) (b : UInt8) :
    ∀ event ∈ (r.offer b).1, event.isNewline = false := by
  unfold offer
  split
  · exact List.forall_mem_cons.mpr ⟨rfl, isNewline_take _ b⟩
  · exact isNewline_take r b

theorem isNewline_beforeLineEnd (r : Reading m) :
    ∀ event ∈ r.beforeLineEnd.1, event.isNewline = false := by
  unfold beforeLineEnd
  split
  · exact List.forall_mem_nil _
  split
  · split
    · exact List.forall_mem_nil _
    · exact List.forall_mem_singleton.mpr rfl
  · exact List.forall_mem_singleton.mpr rfl

/-- A step gives out a line end only where it reads one. -/
theorem Reads.isNewline_or (h : r.Reads input given r' rest) :
    (∀ event ∈ given, event.isNewline = false)
      ∨ ∃ text, input = text ++ rest ∧ EndsLine text rest
        ∧ (∀ b ∈ text.head?, r.continuation.extend b = none) ∧ given = (r.lineEnd text).1 := by
  cases h with
  | extend hextend => exact .inl (List.forall_mem_nil _)
  | join hjoins hrest => exact .inl (List.forall_mem_nil _)
  | offer hb hjoins => exact .inl (isNewline_offer r _)
  | lineEnd hend hextend => exact .inr ⟨_, rfl, hend, hextend, rfl⟩

/-! ### From place to place -/

/-- How far a reading has come. -/
structure Place (m : Machine) where
  /-- The events given out on the way. -/
  given : List (Event m.Kind)
  /-- The reading. -/
  reading : Reading m
  /-- What is left of the input. -/
  rest : Bytes

namespace Place

/-- Where a reading of an input begins. -/
def start (m : Machine) (input : Bytes) : Place m := ⟨[], {}, input⟩

/-- The place a step leads to. -/
inductive Next : Place m → Place m → Prop
  | reads {given more : List (Event m.Kind)} {r r' : Reading m} {input rest : Bytes}
      (h : r.Reads input more r' rest) : Next ⟨given, r, input⟩ ⟨given ++ more, r', rest⟩

/-- Whether a place comes later, or is the same. -/
def Reaches : Place m → Place m → Prop := Relation.ReflTransGen Next

variable {p q : Place m}

/-- A place has at most one next one. -/
theorem rightUnique_next : Relator.RightUnique (Next (m := m)) := by
  intro p q q' hq hq'
  cases hq with
  | reads h =>
    cases hq' with
    | reads h' =>
      have heq := Option.some.inj (h.next_eq.symm.trans h'.next_eq)
      obtain ⟨rfl, rfl, rfl⟩ := by simpa using heq
      rfl

theorem Reaches.suffix (h : p.Reaches q) : q.rest <:+ p.rest := by
  induction h with
  | refl => exact List.suffix_rfl
  | tail _ hnext ih =>
    cases hnext with
    | reads h =>
      obtain ⟨read, rfl, -⟩ := h.exists_read
      exact (List.suffix_append read _).trans ih

/-- A place that comes later by a step has less left. -/
theorem Next.length_lt (h : p.Next q) : q.rest.length < p.rest.length := by
  cases h with
  | reads h =>
    obtain ⟨read, rfl, hread, -⟩ := h.exists_read
    have hpos := List.length_pos_iff.mpr hread
    rw [List.length_append]
    exact Nat.lt_add_of_pos_left hpos

theorem Reaches.eq_or_length_lt (h : p.Reaches q) : p = q ∨ q.rest.length < p.rest.length := by
  rcases h.cases_head with rfl | ⟨next, hnext, hlater⟩
  · exact .inl rfl
  · exact .inr (Nat.lt_of_le_of_lt (Reaches.suffix hlater).length_le hnext.length_lt)

/-- What is left tells the places of a reading apart. -/
theorem Reaches.eq_of_length_eq {q' : Place m} (h : p.Reaches q) (h' : p.Reaches q')
    (hlength : q.rest.length = q'.rest.length) : q = q' := by
  rcases Relation.ReflTransGen.total_of_right_unique rightUnique_next h h' with hlater | hlater
  · exact (Reaches.eq_or_length_lt hlater).resolve_right (by omega)
  · exact ((Reaches.eq_or_length_lt hlater).resolve_right (by omega)).symm

/-- The events given out on the way and those still to come are the same at all places. -/
theorem Reaches.events_eq (h : p.Reaches q) :
    p.given ++ p.reading.events p.rest = q.given ++ q.reading.events q.rest := by
  induction h with
  | refl => rfl
  | tail _ hnext ih =>
    cases hnext with
    | reads h => rw [ih, h.events_eq, List.append_assoc]

theorem Reaches.isSound (hm : m.IsSteady) (hp : p.reading.IsSound) (h : p.Reaches q) :
    q.reading.IsSound := by
  induction h with
  | refl => exact hp
  | tail _ hnext ih =>
    cases hnext with
    | reads h => exact h.isSound hm ih

theorem Reaches.kept {keep : Continuation → Bytes → Prop} (hk : m.RunsKeep keep)
    (hp : keep p.reading.continuation p.reading.run) (h : p.Reaches q) :
    keep q.reading.continuation q.reading.run := by
  induction h with
  | refl => exact hp
  | tail _ hnext ih =>
    cases hnext with
    | reads h => exact h.kept hk ih

/-! ### Places of an input -/

theorem isSound_start (m : Machine) (input : Bytes) : (start m input).reading.IsSound :=
  isSound_of_run_eq_nil rfl rfl

/-- The octets in front of a place are those given out and those of the token in progress. -/
theorem Reaches.source_eq (hm : m.IsSteady) {front : Bytes}
    (h : (start m (front ++ q.rest)).Reaches q) :
    Event.source q.given ++ q.reading.run = front := by
  have hsound := h.isSound hm (isSound_start m _)
  have hevents := congrArg Event.source h.events_eq
  rw [Event.source_append, Event.source_append, source_events hm (isSound_start m _),
    source_events hm hsound, ← List.append_assoc] at hevents
  have hinput : front ++ q.rest = Event.source q.given ++ q.reading.run ++ q.rest :=
    hevents.trans (List.append_assoc _ _ _).symm
  exact (List.append_cancel_right hinput).symm

/-- A line end in front of a place is told from the first half of one, a line continuation apart. -/
theorem Reaches.getLast?_ne {front : Bytes} (h : (start m (front ++ q.rest)).Reaches q)
    (hc : q.reading.continuation ≠ .carriageReturn) (hrest : q.rest.head? = some Octet.lineFeed) :
    front.getLast? ≠ some Octet.carriageReturn := by
  intro hlast
  rcases h.cases_tail with heq | ⟨before, hbefore, hnext⟩
  · have hrest := congrArg (fun p : Place m => p.rest.length) heq
    have hnil : front = [] := by simpa [start] using hrest
    exact absurd hlast (by simp [hnil])
  · cases hnext with
    | @reads given more r r' input rest hreads =>
      obtain ⟨read, rfl, hread, hcr⟩ := hreads.exists_read
      obtain ⟨x, hx⟩ := Reaches.suffix hbefore
      -- what the step read is the last part of the front
      have hfront : x ++ read = front := by
        have hx' : x ++ read ++ rest = front ++ rest := by rw [List.append_assoc]; exact hx
        exact List.append_cancel_right hx'
      refine hc (hcr ?_ hrest)
      rw [← hfront, List.getLast?_append] at hlast
      rcases hopt : read.getLast? with _ | last
      · exact absurd (List.getLast?_eq_none_iff.mp hopt) hread
      · rwa [hopt] at hlast

end Place

end Reading

/-! ### Where a tokenizer stands -/

namespace Tokenizer

open Reading (Place)

namespace Scan

/-- Only a CR is read together with the octet after it. -/
theorem eq_carriageReturn_of_advance {s s' : Scan m} {b : UInt8} {ahead : Ahead}
    (h : s.advance b ahead = .afterLineFeed s') : b = Octet.carriageReturn := by
  unfold advance at h
  split at h
  · exact absurd h (by simp)
  · dsimp only at h
    split at h
    · exact absurd h (by simp)
    split at h
    · next hcr => exact hcr
    split at h
    · split at h
      · exact absurd h (by simp)
      · split at h <;> exact absurd h (by simp)
    · exact absurd h (by simp)

end Scan

/-- A held octet is read together with the one after it only if it is a CR. -/
theorem skip_release {t : Tokenizer m} {after : Ahead} {rest : Bytes} (hfits : after.Fits rest)
    (h : (t.release after).skip ≠ 0) : t.held = some Octet.carriageReturn := by
  unfold Tokenizer.release at h
  cases hheld : t.held with
  | none =>
    rw [hheld] at h
    exact absurd rfl h
  | some b =>
    rw [hheld] at h
    have hcarries : Scan.Carries (fun (_ : Reading m) _ => True)
        { t with held := none, length := 1, first := 0 } (b :: rest) :=
      ⟨⟨t.state, [], t.continuation⟩, ⟨rfl, rfl⟩, trivial⟩
    have hnext := Scan.carries_advance Reading.isCarried_true hcarries hfits
    replace h : (Scan.run after [b] { t with held := none, length := 1, first := 0 }).skip ≠ 0 := h
    rw [Scan.run] at h
    cases hadv : Scan.advance { t with held := none, length := 1, first := 0 } b after with
    | octet s =>
      rw [hadv] at hnext
      rw [List.head?_nil, Option.elim_none, hadv] at h
      exact absurd ((Scan.kept_interrupt s).2.trans hnext.2.2) h
    | wait s =>
      rw [hadv] at hnext
      rw [List.head?_nil, Option.elim_none, hadv] at h
      exact absurd ((Scan.kept_interrupt s).2.trans hnext.2.2.2) h
    | afterLineFeed s => rw [Scan.eq_carriageReturn_of_advance hadv]

/-- The reading that a tokenizer stands with, at a place of its input. -/
def IsAtPlace (input : Bytes) (r : Reading m) (rest : Bytes) : Prop :=
  ∃ p : Place m, (Place.start m input).Reaches p ∧ p.rest = rest ∧ p.reading.state = r.state
    ∧ p.reading.next rest = r.next rest

theorem isCarried_isAtPlace (input : Bytes) : Reading.IsCarried (IsAtPlace (m := m) input) where
  reads {r r' rest rest' given} := by
    rintro ⟨p, hp, rfl, -, hnext⟩ h
    have hreads := Reading.reads_of_next (hnext.trans h.next_eq)
    exact ⟨⟨p.given ++ given, r', rest'⟩, hp.tail (.reads hreads), rfl, rfl, rfl⟩
  forget := by
    rintro r b rest ⟨p, hp, hrest, hstate, hnext⟩ hextend
    exact ⟨p, hp, hrest, hstate, hnext.trans (Reading.next_of_not_extend hextend rest)⟩

/-- A fresh tokenizer stands at a place of its input wherever it has been fed to. -/
theorem isAtPlace_feed (m : Machine) (front rest : Bytes) :
    ((fresh m).feed front).1.Carries (IsAtPlace (front ++ rest)) rest := by
  have hfresh : (fresh m).Carries (IsAtPlace (front ++ rest)) (front ++ rest) :=
    ⟨[], Place.start m _, .refl, rfl, rfl, rfl⟩
  exact hfresh.feed (isCarried_isAtPlace _)

/-- The octet that comes next is not read along with a held one, except for the LF of a CR LF. -/
theorem skip_release_feed (m : Machine) {front : Bytes} {b : UInt8}
    (hb : b = Octet.lineFeed → front.getLast? ≠ some Octet.carriageReturn) :
    (((fresh m).feed front).1.release (.octet b)).skip = 0 := by
  have hfits : (Ahead.octet b).Fits [b] := rfl
  have hfed := isAtPlace_feed m front [b]
  refine (hfed.release (isCarried_isAtPlace _) hfits).skip_eq.resolve_right ?_
  rintro ⟨hafter, hskip⟩
  obtain rfl : b = Octet.lineFeed := by simpa using hafter
  -- the CR that is held would be the last octet of the front
  have hheld := skip_release hfits (by rw [hskip]; decide)
  obtain ⟨run, p, hreach, hrest, -⟩ := hfed
  have hsuffix := hreach.suffix
  rw [hrest, hheld] at hsuffix
  obtain ⟨x, hx⟩ := hsuffix
  have hfront : x ++ [Octet.carriageReturn] ++ [Octet.lineFeed] = front ++ [Octet.lineFeed] := by
    rw [List.append_assoc]
    exact hx
  exact hb rfl (by simp [← List.append_cancel_right hfront])

end Tokenizer

namespace Reading.Place

/-- A reading of the whole input comes to every place but the one within a CR LF, and is in the
state there that the octets in front of it lead to. -/
theorem exists_reaches_stateBefore (m : Machine) (front : Bytes) (b : UInt8) (rest : Bytes)
    (hb : b = Octet.lineFeed → front.getLast? ≠ some Octet.carriageReturn) :
    ∃ p : Place m, (start m (front ++ b :: rest)).Reaches p ∧ p.rest = b :: rest
      ∧ p.reading.state = m.stateBefore front b := by
  have hfits : (Ahead.octet b).Fits (b :: rest) := rfl
  have hends := (Tokenizer.isAtPlace_feed m front (b :: rest)).release
    (Tokenizer.isCarried_isAtPlace _) hfits
  have hheld : (((Tokenizer.fresh m).feed front).1.release (.octet b)).held = none :=
    hends.held_eq (by simp)
  obtain ⟨run, p, hreach, hrest, hstate, -⟩ := Tokenizer.Carries.of_ends hends
  rw [hheld, Tokenizer.skip_release_feed m hb] at hrest
  exact ⟨p, hreach, hrest, hstate⟩

/-! ### Line ends of a reading -/

/-- Whether the reading is in front of a line end that goes on no line continuation. -/
def IsAtLineEnd (p : Place m) (text rest : Bytes) : Prop :=
  p.rest = text ++ rest ∧ EndsLine text rest
    ∧ ∀ b ∈ text.head?, p.reading.continuation.extend b = none

/-- A reading in front of a line end gives it out next. -/
theorem IsAtLineEnd.next {p : Place m} {text rest : Bytes} (h : p.IsAtLineEnd text rest) :
    p.Next ⟨p.given ++ (p.reading.lineEnd text).1, (p.reading.lineEnd text).2, rest⟩ := by
  obtain ⟨given, r, input⟩ := p
  obtain ⟨rfl, hend, hextend⟩ := h
  exact .reads (.lineEnd hend hextend)

/-- Where a reading gives out a line end, it is in front of one. -/
theorem exists_isAtLineEnd {p : Place m} {before after : List (Event m.Kind)} {text : Bytes}
    (h : p.reading.events p.rest = before ++ .newline text :: after) :
    ∃ q : Place m, ∃ rest, p.Reaches q ∧ q.IsAtLineEnd text rest
      ∧ p.given ++ before = q.given ++ q.reading.beforeLineEnd.1 := by
  induction hlength : p.rest.length using Nat.strongRecOn generalizing p before with
  | ind n ih =>
    obtain ⟨given, r, input⟩ := p
    cases input with
    | nil =>
      -- the end of the input has no line end
      have hmem : .newline text ∈ r.ending := by
        rw [show r.ending = _ from h]
        simp
      unfold ending at hmem
      split at hmem <;> simp at hmem
    | cons b input =>
      obtain ⟨more, r', rest, hreads⟩ := r.exists_reads b input
      have hnext : Next ⟨given, r, b :: input⟩ ⟨given ++ more, r', rest⟩ := .reads hreads
      have hlt := hnext.length_lt
      have hevents : more ++ r'.events rest = before ++ .newline text :: after :=
        hreads.events_eq.symm.trans h
      -- a later line end is found from the next place on
      have hlater : ∀ {middle}, r'.events rest = middle ++ .newline text :: after →
          before = more ++ middle → ∃ q : Place m, ∃ rest,
            Reaches ⟨given, r, b :: input⟩ q ∧ q.IsAtLineEnd text rest
              ∧ given ++ before = q.given ++ q.reading.beforeLineEnd.1 := by
        intro middle hmiddle hbefore
        obtain ⟨q, rest', hreach, hq⟩ := ih _ (hlength ▸ hlt) (p := ⟨given ++ more, r', rest⟩)
          hmiddle rfl
        rw [List.append_assoc, ← hbefore] at hq
        exact ⟨q, rest', .head hnext hreach, hq⟩
      rcases hreads.isNewline_or with hquiet | ⟨piece, hinput, hend, hextend, rfl⟩
      · obtain ⟨middle, hbefore, hmiddle⟩ := Event.exists_of_append_eq_newline hquiet hevents
        exact hlater hmiddle hbefore
      · rw [lineEnd, List.append_assoc] at hevents
        obtain ⟨middle, hbefore, hmiddle⟩ :=
          Event.exists_of_append_eq_newline (isNewline_beforeLineEnd r) hevents
        cases middle with
        | nil =>
          obtain ⟨heq, -⟩ := List.cons.inj hmiddle
          obtain rfl : piece = text := by simpa using heq
          rw [List.append_nil] at hbefore
          exact ⟨_, rest, .refl, ⟨hinput, hend, hextend⟩, congrArg (given ++ ·) hbefore⟩
        | cons event middle =>
          obtain ⟨rfl, hmore⟩ := List.cons.inj hmiddle
          refine hlater hmore ?_
          rw [hbefore, lineEnd, List.append_assoc]
          rfl

/-- A reading comes to the end of its input. -/
theorem exists_reaches_end (p : Place m) : ∃ q : Place m, p.Reaches q ∧ q.rest = [] := by
  induction hlength : p.rest.length using Nat.strongRecOn generalizing p with
  | ind n ih =>
    obtain ⟨given, r, input⟩ := p
    cases input with
    | nil => exact ⟨_, .refl, rfl⟩
    | cons b input =>
      obtain ⟨more, r', rest, hreads⟩ := r.exists_reads b input
      have hnext : Next ⟨given, r, b :: input⟩ ⟨given ++ more, r', rest⟩ := .reads hreads
      obtain ⟨q, hreach, hq⟩ := ih _ (hlength ▸ hnext.length_lt) _ rfl
      exact ⟨q, .head hnext hreach, hq⟩

/-- The octets in front of a line end that is given out are those of the events in front of it. -/
theorem Reaches.source_beforeLineEnd (hm : m.IsSteady) {front : Bytes}
    (h : (start m (front ++ q.rest)).Reaches q) :
    Event.source (q.given ++ q.reading.beforeLineEnd.1) = front := by
  have hline := (lineEnd_spec (h.isSound hm (isSound_start m _)) []).1
  rw [lineEnd, Event.source_append, List.append_nil] at hline
  have hbefore : Event.source q.reading.beforeLineEnd.1 = q.reading.run :=
    (List.append_nil _).symm.trans hline
  rw [Event.source_append, hbefore, h.source_eq hm]

/-- The state of the machine at a place of its input. -/
theorem Reaches.state_eq {front rest : Bytes} {b : UInt8}
    (h : (start m (front ++ b :: rest)).Reaches q) (hrest : q.rest = b :: rest)
    (hb : b = Octet.lineFeed → front.getLast? ≠ some Octet.carriageReturn) :
    q.reading.state = m.stateBefore front b := by
  obtain ⟨p, hreach, hp, hstate⟩ := exists_reaches_stateBefore m front b rest hb
  rw [h.eq_of_length_eq hreach (by rw [hrest, hp]), hstate]

end Reading.Place

/-! ### Line ends of an input -/

/-- Whether an input in two parts, `front` and `ending ++ rest`, has a line end there: CR LF,
another CR, or another LF. -/
def Bytes.HasLineEnd (front ending rest : Bytes) : Prop :=
  Reading.EndsLine ending rest
    ∧ (ending = [Octet.lineFeed] → front.getLast? ≠ some Octet.carriageReturn)

open Reading (Place) in
/-- A line end that is reported is one of the input, behind the octets of the events in front of it,
and the reading is there. -/
theorem Machine.exists_reaches_of_newline (hm : m.IsSteady) {buffers : List Bytes}
    {before after : List (Event m.Kind)} {text : Bytes}
    (h : m.events buffers = before ++ .newline text :: after) :
    ∃ q : Place m, ∃ rest, (Place.start m buffers.flatten).Reaches q ∧ q.IsAtLineEnd text rest
      ∧ Event.merged before = q.given ++ q.reading.beforeLineEnd.1
      ∧ buffers.flatten = Event.source before ++ (text ++ rest)
      ∧ Bytes.HasLineEnd (Event.source before) text rest
      ∧ ∃ b ∈ text.head?, q.reading.state = m.stateBefore (Event.source before) b := by
  have hmerged := Event.mergedAfter_newline none before text after
  rw [← h, ← Event.merged, m.merged_events hm] at hmerged
  obtain ⟨q, rest, hreach, hline, hbefore⟩ :=
    Place.exists_isAtLineEnd (p := Place.start m buffers.flatten) hmerged
  rw [show (Place.start m buffers.flatten).given = [] from rfl, List.nil_append] at hbefore
  obtain ⟨front, hfront⟩ := hreach.suffix
  have hinput : buffers.flatten = front ++ q.rest := hfront.symm
  have hsource : Event.source before = front := by
    rw [← Event.merged_source before, Event.merged, hbefore]
    exact Place.Reaches.source_beforeLineEnd hm (hinput ▸ hreach)
  obtain ⟨hrest, hend, hextend⟩ := hline
  obtain ⟨b, tail, rfl⟩ := hend.exists_eq_cons
  have hc : b = Octet.lineFeed → q.reading.continuation ≠ .carriageReturn := by
    rintro rfl hc
    exact absurd (hextend _ rfl) (by simp [hc, Continuation.extend])
  have hlast : b = Octet.lineFeed → front.getLast? ≠ some Octet.carriageReturn := fun hb =>
    Place.Reaches.getLast?_ne (hinput ▸ hreach) (hc hb) (by rw [hrest, hb]; rfl)
  rw [hsource]
  refine ⟨q, rest, hreach, ⟨hrest, hend, hextend⟩, hbefore, hinput.trans (by rw [hrest]),
    ⟨hend, fun hlf => hlast (List.cons.inj hlf).1⟩, b, rfl, ?_⟩
  rw [hinput, hrest] at hreach
  exact Place.Reaches.state_eq hreach hrest hlast

end MarkupFeed
