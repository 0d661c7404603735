import MarkupFeed.Sink

/-!
# Writing to a sink

A sink without a limit takes every text of a script: `Script.run_unlimited`. Any sink is offered
the texts of a script one by one, so that a script may be cut anywhere: its end is performed behind
the outcome of its beginning, unless that is an error (`Outcome.andThen`, `Script.perform_append`).
-/

namespace MarkupFeed

/-- Goes on writing behind an outcome, unless it is an error. -/
def Outcome.andThen {ε τ : Type} {σ : Type u} (first : Outcome ε τ σ)
    (next : σ → τ → Outcome ε τ σ) : Outcome ε τ σ :=
  if first.error.isSome then first
  else
    let last := next first.state first.sink
    { last with output := first.output ++ last.output }

/-- The outcome for an author who remembers something else. -/
def Outcome.withState {ε τ : Type} {σ : Type u} {ρ : Type v} (outcome : Outcome ε τ σ)
    (state : ρ) : Outcome ε τ ρ :=
  ⟨state, outcome.sink, outcome.output, outcome.error⟩

namespace Script

variable {σ ε τ : Type}

/-! ### What a script comes to, write by write -/

@[simp] theorem final_nil (state : σ) : final ⟨state, []⟩ = state := rfl

@[simp] theorem final_cons (state next : σ) (text : Bytes) (writes : List (Bytes × σ)) :
    final ⟨state, (text, next) :: writes⟩ = final ⟨next, writes⟩ := by
  rw [final, final, List.getLast?_cons]
  cases writes.getLast? <;> rfl

@[simp] theorem output_nil (state : σ) : output ⟨state, []⟩ = [] := rfl

@[simp] theorem output_cons (state next : σ) (text : Bytes) (writes : List (Bytes × σ)) :
    output ⟨state, (text, next) :: writes⟩ = text ++ output ⟨next, writes⟩ := rfl

theorem final_texts (state : σ) (written : List Bytes) : (texts state written).final = state := by
  induction written with
  | nil => rfl
  | cons text written ih => exact (final_cons state state text _).trans ih

theorem output_texts (state : σ) (written : List Bytes) :
    (texts state written).output = written.flatten := by
  induction written with
  | nil => rfl
  | cons text written ih => exact congrArg (text ++ ·) ih

/-! ### A sink without a limit -/

/-- Writes that never fail are all made, and their author remembers what it does after the last
one. -/
theorem perform_unlimited (state : σ) (writes : List (Bytes × σ)) :
    perform Sink.unlimited state writes ()
      = ⟨final ⟨state, writes⟩, (), output ⟨state, writes⟩, none⟩ := by
  induction writes generalizing state with
  | nil => rfl
  | cons write rest ih =>
    obtain ⟨text, next⟩ := write
    rw [final_cons, output_cons]
    unfold perform
    split
    · next hempty =>
      -- nothing is asked of the sink where nothing is written
      rw [ih, List.isEmpty_iff.mp hempty]
      rfl
    · show { perform Sink.unlimited next rest () with
        output := text ++ (perform Sink.unlimited next rest ()).output } = _
      rw [ih]

theorem run_unlimited (script : Script σ) :
    script.run Sink.unlimited () = ⟨script.final, (), script.output, none⟩ :=
  perform_unlimited script.start script.writes

theorem run_text_unlimited (state : σ) (text : Bytes) :
    (texts state [text]).run Sink.unlimited () = ⟨state, (), text, none⟩ := by
  rw [run_unlimited]
  exact congrArg (Outcome.mk state () · none) (List.append_nil text)

/-! ### A script cut in two -/

theorem perform_append (sink : Sink ε τ) (state : σ) (writes more : List (Bytes × σ))
    (memory : τ) :
    perform sink state (writes ++ more) memory
      = (perform sink state writes memory).andThen fun state memory =>
          perform sink state more memory := by
  fun_induction perform sink state writes memory with
  | case1 state memory => rfl
  | case2 state text next rest memory hempty ih =>
    rw [List.cons_append, perform, if_pos hempty]
    exact ih
  | case3 state text next rest memory hempty memory' hwrite outcome ih =>
    rw [List.cons_append, perform, if_neg hempty, hwrite]
    dsimp only
    rw [ih]
    unfold Outcome.andThen outcome
    dsimp only
    split
    · rfl
    · rw [List.append_assoc]
  | case4 state text next rest memory hempty taken error memory' hwrite =>
    rw [List.cons_append, perform, if_neg hempty, hwrite]
    rfl

/-- Whatever the author of some texts remembers has no part in what becomes of them. -/
theorem run_texts (sink : Sink ε τ) (state : σ) (written : List Bytes) (memory : τ) :
    (texts state written).run sink memory
      = ((texts () written).run sink memory).withState state := by
  induction written generalizing memory with
  | nil => rfl
  | cons text written ih =>
    have hrest : ∀ memory, perform sink state (written.map (·, state)) memory
        = (perform sink () (written.map (·, ())) memory).withState state := ih
    simp only [run, texts, List.map_cons, perform]
    by_cases hempty : text.isEmpty = true
    · rw [if_pos hempty, if_pos hempty]
      exact hrest memory
    · rw [if_neg hempty, if_neg hempty]
      cases sink.write memory text with
      | mk reply memory' =>
        cases reply with
        | all =>
          dsimp only
          rw [hrest]
          rfl
        | part taken error => rfl

/-- Texts behind others are written where those are. -/
theorem run_texts_append (sink : Sink ε τ) (state : σ) (written more : List Bytes) (memory : τ) :
    (texts state (written ++ more)).run sink memory
      = ((texts state written).run sink memory).andThen fun _ memory =>
          (texts state more).run sink memory := by
  have hsplit := perform_append sink state (written.map (·, state)) (more.map (·, state)) memory
  have hwritten := run_texts sink state written memory
  rw [← List.map_append] at hsplit
  refine hsplit.trans ?_
  -- the author remembers the same at the cut
  rw [hwritten, show perform sink state (written.map (·, state)) memory = _ from hwritten]
  rfl

end Script

end MarkupFeed
