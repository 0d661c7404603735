import MarkupFeed.Proofs.Tokenizer.Lines

/-!
# What merging leaves as it is

Merging folds the pieces of a token together, and has no part in line ends: those of the merged
events are those of the events, in the same order and behind the same octets (`newlines_merged`,
`mergedAfter_newline`, `exists_of_mergedAfter_newline`). Nor does it change whether a token is open
(`isOpenAfter_mergedAfter`). Events that leave no token open fall into whole tokens and line ends
(`exists_groups`).
-/

namespace MarkupFeed.Event

variable {κ : Type}

/-! ### Line ends -/

/-- The line ends of the events. -/
def newlines (events : List (Event κ)) : List Bytes :=
  events.filterMap fun
    | token .. => none
    | newline text => some text

@[simp] theorem newlines_nil : newlines ([] : List (Event κ)) = [] := rfl

@[simp] theorem newlines_token (kind : κ) (text : Bytes) (fragment : Bool) (rest : List (Event κ)) :
    newlines (token kind text fragment :: rest) = newlines rest := rfl

@[simp] theorem newlines_newline (text : Bytes) (rest : List (Event κ)) :
    newlines (newline text :: rest) = text :: newlines rest := rfl

@[simp] theorem newlines_append (events more : List (Event κ)) :
    newlines (events ++ more) = newlines events ++ newlines more :=
  List.filterMap_append

theorem newlines_eq_nil {events : List (Event κ)} (h : ∀ event ∈ events, event.isNewline = false) :
    newlines events = [] := by
  refine List.filterMap_eq_nil_iff.mpr fun event hevent => ?_
  cases event with
  | token kind text fragment => rfl
  | newline text => exact absurd (h _ hevent) (by simp [isNewline])

/-- A line end stands behind events among which there is none. -/
theorem exists_of_append_eq_newline {given more before after : List (Event κ)} {text : Bytes}
    (hgiven : ∀ event ∈ given, event.isNewline = false)
    (h : given ++ more = before ++ newline text :: after) :
    ∃ middle, before = given ++ middle ∧ more = middle ++ newline text :: after := by
  rcases List.append_eq_append_iff.mp h with ⟨middle, hbefore, hmore⟩ | ⟨middle, hgiven', hrest⟩
  · exact ⟨middle, hbefore, hmore⟩
  · cases middle with
    | nil => exact ⟨[], by simpa using hgiven'.symm, hrest.symm⟩
    | cons event middle =>
      obtain ⟨rfl, -⟩ := List.cons.inj hrest
      have hmem : newline text ∈ given := by simp [hgiven']
      exact absurd (hgiven _ hmem) (by simp [isNewline])

theorem isNewline_interrupted (run : Option (κ × Bytes)) :
    ∀ event ∈ interrupted run, event.isNewline = false := by
  cases run with
  | none => exact List.forall_mem_nil _
  | some run => exact List.forall_mem_singleton.mpr rfl

theorem newlines_mergedAfter (run : Option (κ × Bytes)) (events : List (Event κ)) :
    newlines (mergedAfter run events) = newlines events := by
  induction events generalizing run with
  | nil => exact newlines_eq_nil (isNewline_interrupted run)
  | cons event rest ih =>
    rw [mergedAfter_cons, newlines_append, ih]
    cases event with
    | token kind text fragment => cases fragment <;> rfl
    | newline text =>
      rw [mergeOne, newlines_append, newlines_eq_nil (isNewline_interrupted run)]
      rfl

/-- Merging changes no line end. -/
theorem newlines_merged (events : List (Event κ)) : newlines (merged events) = newlines events :=
  newlines_mergedAfter none events

/-- What merging has come to, with the run that is open cut off. -/
theorem mergedAfter_eq_settle (run : Option (κ × Bytes)) (events : List (Event κ)) :
    mergedAfter run events = (settle run events).1 ++ interrupted (settle run events).2 := by
  have happend := mergedAfter_append run events []
  rwa [List.append_nil] at happend

/-- Merging begins anew behind a line end. -/
theorem mergedAfter_newline (run : Option (κ × Bytes)) (before : List (Event κ)) (text : Bytes)
    (after : List (Event κ)) :
    mergedAfter run (before ++ newline text :: after)
      = mergedAfter run before ++ newline text :: merged after := by
  rw [mergedAfter_append, mergedAfter, mergedAfter_eq_settle run before, List.append_assoc]
  rfl

/-- A line end of the merged events was one before. -/
theorem exists_of_mergedAfter_newline {run : Option (κ × Bytes)}
    {events before after : List (Event κ)} {text : Bytes}
    (h : mergedAfter run events = before ++ newline text :: after) :
    ∃ front back, events = front ++ newline text :: back ∧ mergedAfter run front = before := by
  induction events generalizing run before with
  | nil =>
    have hmem : newline text ∈ interrupted run := by
      rw [← mergedAfter, h]
      simp
    exact absurd (isNewline_interrupted run _ hmem) (by simp [isNewline])
  | cons event rest ih =>
    rw [mergedAfter_cons] at h
    cases event with
    | token kind piece fragment =>
      have hnone : ∀ event ∈ (mergeOne run (token kind piece fragment)).1,
          event.isNewline = false := by
        cases fragment
        · exact List.forall_mem_singleton.mpr rfl
        · exact List.forall_mem_nil _
      obtain ⟨middle, rfl, hrest⟩ := exists_of_append_eq_newline hnone h
      obtain ⟨front, back, rfl, rfl⟩ := ih hrest
      exact ⟨token kind piece fragment :: front, back, rfl, mergedAfter_cons _ _ _⟩
    | newline piece =>
      rw [mergeOne, List.append_assoc] at h
      obtain ⟨middle, rfl, hrest⟩ := exists_of_append_eq_newline (isNewline_interrupted run) h
      cases middle with
      | nil =>
        -- it is this line end, behind the run it interrupts
        obtain ⟨heq, -⟩ := List.cons.inj hrest
        exact ⟨[], rest, congrArg (· :: rest) heq, (List.append_nil _).symm⟩
      | cons event middle =>
        obtain ⟨rfl, hmore⟩ := List.cons.inj hrest
        obtain ⟨front, back, rfl, hfront⟩ := ih hmore
        refine ⟨newline piece :: front, back, rfl, ?_⟩
        rw [mergedAfter, ← hfront]

/-- What is left of events in front of a line end, without an octet, is nothing. -/
theorem eq_nil_of_source_eq {before middle after rest : List (Event κ)} {text : Bytes}
    (htext : text ≠ []) (h : newline text :: after = middle ++ rest)
    (hsource : source before = source (before ++ middle)) : middle = [] := by
  have hnone : source middle = [] := by
    rw [source_append] at hsource
    exact List.append_cancel_left (hsource.symm.trans (List.append_nil _).symm)
  cases middle with
  | nil => rfl
  | cons event middle =>
    obtain ⟨rfl, -⟩ := List.cons.inj h
    exact absurd (List.append_eq_nil_iff.mp hnone).1 htext

/-- The octets in front of it tell which of the events a line end is. -/
theorem eq_of_source_eq {before before' after after' : List (Event κ)} {text text' : Bytes}
    (htext : text ≠ []) (htext' : text' ≠ [])
    (h : before ++ newline text :: after = before' ++ newline text' :: after')
    (hsource : source before = source before') : before = before' := by
  rcases List.append_eq_append_iff.mp h with ⟨middle, rfl, hrest⟩ | ⟨middle, rfl, hrest⟩
  · rw [eq_nil_of_source_eq htext hrest hsource, List.append_nil]
  · rw [eq_nil_of_source_eq htext' hrest hsource.symm, List.append_nil]

/-! ### Tokens within lines -/

/-- The pieces of a token stand within a line if the whole token does. -/
theorem isInLine_of_mergedAfter {run : Option (κ × Bytes)} {events : List (Event κ)}
    (h : ∀ event ∈ mergedAfter run events, event.IsInLine) :
    (openText run).IsLine ∧ ∀ event ∈ events, event.IsInLine := by
  induction events generalizing run with
  | nil =>
    refine ⟨?_, List.forall_mem_nil _⟩
    cases run with
    | none => exact Bytes.isLine_nil
    | some run => exact h (token run.1 run.2 true) List.mem_cons_self
  | cons event rest ih =>
    rw [mergedAfter_cons, List.forall_mem_append] at h
    obtain ⟨hone, hrest⟩ := h
    obtain ⟨hrun, hmore⟩ := ih hrest
    cases event with
    | token kind text fragment =>
      have hwhole : (openText run ++ text).IsLine := by
        cases fragment
        · exact hone (token kind (openText run ++ text) false) List.mem_cons_self
        · exact hrun
      rw [Bytes.isLine_append] at hwhole
      exact ⟨hwhole.1, List.forall_mem_cons.mpr ⟨hwhole.2, hmore⟩⟩
    | newline text =>
      refine ⟨?_, List.forall_mem_cons.mpr ⟨trivial, hmore⟩⟩
      cases run with
      | none => exact Bytes.isLine_nil
      | some run => exact hone (token run.1 run.2 true) List.mem_cons_self

/-! ### Open tokens -/

/-- Whether a token is open behind the events, given whether one was open in front of them: the last
piece of a token is a fragment. -/
def isOpenAfter : Bool → List (Event κ) → Bool
  | isOpen, [] => isOpen
  | _, token _ _ fragment :: rest => isOpenAfter fragment rest
  | isOpen, newline _ :: rest => isOpenAfter isOpen rest

theorem isOpenAfter_append (isOpen : Bool) (events more : List (Event κ)) :
    isOpenAfter isOpen (events ++ more) = isOpenAfter (isOpenAfter isOpen events) more := by
  induction events generalizing isOpen with
  | nil => rfl
  | cons event rest ih =>
    cases event with
    | token kind text fragment => exact ih fragment
    | newline text => exact ih isOpen

theorem isOpenAfter_interrupted (isOpen : Bool) (run : Option (κ × Bytes)) :
    isOpenAfter isOpen (interrupted run) = (isOpen || run.isSome) := by
  cases run <;> cases isOpen <;> rfl

/-- Merging does not change whether a token is open. An open run is an open token. -/
theorem isOpenAfter_mergedAfter (isOpen : Bool) (run : Option (κ × Bytes))
    (events : List (Event κ)) :
    isOpenAfter isOpen (mergedAfter run events) = isOpenAfter (isOpen || run.isSome) events := by
  induction events generalizing isOpen run with
  | nil => exact isOpenAfter_interrupted isOpen run
  | cons event rest ih =>
    rw [mergedAfter_cons, isOpenAfter_append, ih]
    cases event with
    | token kind text fragment => cases fragment <;> simp [mergeOne, isOpenAfter]
    | newline text =>
      rw [mergeOne, isOpenAfter_append, isOpenAfter_interrupted]
      simp [isOpenAfter]

/-- A token in pieces: fragments, with line ends behind them, and the piece that closes it. -/
inductive IsToken : List (Event κ) → Prop
  | last (kind : κ) (text : Bytes) : IsToken [token kind text false]
  | fragment (kind : κ) (text : Bytes) {lineEnds rest : List (Event κ)}
      (hlineEnds : ∀ event ∈ lineEnds, event.isNewline = true) (hrest : IsToken rest) :
      IsToken (token kind text true :: (lineEnds ++ rest))

/-- Whether the events are grouped into whole tokens and line ends. -/
def AreGroups (groups : List (List (Event κ))) : Prop :=
  ∀ group ∈ groups, IsToken group ∨ ∃ text, group = [newline text]

/-- Events that leave no token open fall into whole tokens and line ends. Where one is open in front
of them, they begin with line ends and the rest of it. -/
theorem exists_groups_after (events : List (Event κ)) :
    (isOpenAfter false events = false → ∃ groups, events = List.flatten groups ∧ AreGroups groups)
      ∧ (isOpenAfter true events = false → ∃ lineEnds token groups,
        events = lineEnds ++ (token ++ List.flatten groups)
          ∧ (∀ event ∈ lineEnds, event.isNewline = true) ∧ IsToken token ∧ AreGroups groups) := by
  induction events with
  | nil =>
    refine ⟨fun _ => ⟨[], rfl, List.forall_mem_nil _⟩, ?_⟩
    exact fun h => absurd h (by simp [isOpenAfter])
  | cons event rest ih =>
    obtain ⟨hclosed, hopen⟩ := ih
    cases event with
    | token kind text fragment =>
      -- a token begins or goes on here, and what was open in front of it makes no difference
      have hgroup : isOpenAfter fragment rest = false → ∃ group groups,
          token kind text fragment :: rest = group ++ List.flatten groups ∧ IsToken group
            ∧ AreGroups groups := by
        intro h
        cases fragment with
        | false =>
          obtain ⟨groups, rfl, hgroups⟩ := hclosed h
          exact ⟨_, groups, rfl, .last kind text, hgroups⟩
        | true =>
          obtain ⟨lineEnds, token, groups, rfl, hlineEnds, htoken, hgroups⟩ := hopen h
          exact ⟨_, groups, by simp, .fragment kind text hlineEnds htoken, hgroups⟩
      constructor
      · intro h
        obtain ⟨group, groups, heq, htoken, hgroups⟩ := hgroup h
        exact ⟨group :: groups, heq, List.forall_mem_cons.mpr ⟨.inl htoken, hgroups⟩⟩
      · intro h
        obtain ⟨group, groups, heq, htoken, hgroups⟩ := hgroup h
        exact ⟨[], group, groups, heq, List.forall_mem_nil _, htoken, hgroups⟩
    | newline text =>
      constructor
      · intro h
        obtain ⟨groups, rfl, hgroups⟩ := hclosed h
        exact ⟨[newline text] :: groups, rfl,
          List.forall_mem_cons.mpr ⟨.inr ⟨text, rfl⟩, hgroups⟩⟩
      · intro h
        obtain ⟨lineEnds, token, groups, rfl, hlineEnds, htoken, hgroups⟩ := hopen h
        exact ⟨newline text :: lineEnds, token, groups, rfl,
          List.forall_mem_cons.mpr ⟨rfl, hlineEnds⟩, htoken, hgroups⟩

theorem exists_groups {events : List (Event κ)} (h : isOpenAfter false events = false) :
    ∃ groups, events = List.flatten groups ∧ AreGroups groups :=
  (exists_groups_after events).1 h

end MarkupFeed.Event
