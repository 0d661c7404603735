import MarkupFeed.Proofs.Tokenizer.Standing

/-!
# Events line by line, and the line a tokenizer is in

`Event.byLine` gives the tokens of each line of some events. Where no line is joined with the next
one, a machine begins each line in the state that the lines before it lead to
(`Machine.stateAfterLines`), and reads the octets of the line from there (`Reading.offerAll`). So it
does in every line that a tokenizer was fed the beginning of, whatever buffers that came in:
`Tokenizer.exists_inLine`.
-/

namespace MarkupFeed

namespace Event

variable {κ : Type}

/-- The tokens of each line behind tokens of the first one. -/
def byLineFrom : List (Event κ) → List (Event κ) → List (List (Event κ))
  | line, [] => if line.isEmpty then [] else [line]
  | line, token kind text fragment :: rest => byLineFrom (line ++ [token kind text fragment]) rest
  | line, newline _ :: rest => line :: byLineFrom [] rest

/-- The tokens of each line, in front of its end. Behind the last line end there is a line if there
are tokens. -/
def byLine (events : List (Event κ)) : List (List (Event κ)) := byLineFrom [] events

theorem byLineFrom_append {tokens : List (Event κ)}
    (h : ∀ event ∈ tokens, event.isNewline = false) (line rest : List (Event κ)) :
    byLineFrom line (tokens ++ rest) = byLineFrom (line ++ tokens) rest := by
  induction tokens generalizing line with
  | nil => rw [List.nil_append, List.append_nil]
  | cons event tokens ih =>
    rw [List.forall_mem_cons] at h
    cases event with
    | token kind text fragment =>
      rw [List.cons_append, byLineFrom, ih h.2, List.append_assoc]
      rfl
    | newline text => exact absurd h.1 (by simp [isNewline])

/-- The tokens in front of a line end are those of the first line. -/
theorem byLine_newline {tokens : List (Event κ)} (h : ∀ event ∈ tokens, event.isNewline = false)
    (text : Bytes) (rest : List (Event κ)) :
    byLine (tokens ++ newline text :: rest) = tokens :: byLine rest := by
  rw [byLine, byLineFrom_append h]
  rfl

/-- Tokens without a line end are those of a line if there are any. -/
theorem byLine_tokens {tokens : List (Event κ)} (h : ∀ event ∈ tokens, event.isNewline = false) :
    byLine tokens = if tokens.isEmpty then [] else [tokens] := by
  have happend := byLineFrom_append h [] []
  rwa [List.append_nil] at happend

end Event

variable {m : Machine}

/-- The state at the start of the line behind complete lines. -/
def Machine.stateAfterLines (state : m.State) (input : Bytes) : m.State :=
  input.lines.foldl (fun s text => m.newline (Reading.line ⟨s, [], .none⟩ text).2) state

theorem Machine.stateAfterLines_of_lines (state : m.State) {front input line : Bytes}
    (h : input.lines = front.lines ++ [line]) :
    stateAfterLines state input
      = m.newline (Reading.line ⟨stateAfterLines state front, [], .none⟩ line).2 := by
  rw [stateAfterLines, h, List.foldl_append]
  rfl

namespace Reading

/-- Reads octets of a line: the events they complete, and the reading after them. -/
def offerAll : Reading m → Bytes → List (Event m.Kind) × Reading m
  | r, [] => ([], r)
  | r, b :: rest =>
    ((r.offer b).1 ++ ((r.offer b).2.offerAll rest).1, ((r.offer b).2.offerAll rest).2)

theorem offerAll_concat (r : Reading m) (text : Bytes) (b : UInt8) :
    (r.offerAll (text ++ [b])).2 = ((r.offerAll text).2.offer b).2 := by
  induction text generalizing r with
  | nil => rfl
  | cons c text ih => exact ih _

theorem continuation_offerAll {r : Reading m} (hr : r.continuation = .none) (text : Bytes) :
    (r.offerAll text).2.continuation = .none := by
  induction text generalizing r with
  | nil => exact hr
  | cons b text ih => exact ih (continuation_offer r b)

/-- A line is read to its end when all its octets are read. -/
theorem line_eq_offerAll (r : Reading m) (text : Bytes) :
    r.line text = ((r.offerAll text).1 ++ (r.offerAll text).2.beforeLineEnd.1,
      (r.offerAll text).2.beforeLineEnd.2) := by
  induction text generalizing r with
  | nil => rfl
  | cons b text ih => rw [line, ih, offerAll, List.append_assoc]

/-- The octets of a last line are read, and the token in progress is closed. -/
theorem events_eq_offerAll {r : Reading m} (hr : r.continuation = .none) {text : Bytes}
    (htext : text.IsLine) : r.events text = (r.offerAll text).1 ++ (r.offerAll text).2.ending := by
  induction text generalizing r with
  | nil => rfl
  | cons b text ih =>
    rw [Bytes.IsLine, List.forall_mem_cons] at htext
    obtain ⟨hb, htext⟩ := htext
    rw [events_cons hr fun h => hb.2 h.1,
      advance_of_isLine r hb fun _ _ => atLineEnd_of_isLine htext,
      ih (continuation_offer r b) htext, offerAll, List.append_assoc]

/-- The reading has read an input up to `rest`: complete lines, and part of a line from the state
behind them on. -/
def IsInLine (input : Bytes) (r : Reading m) (rest : Bytes) : Prop :=
  ∃ front part, input = front ++ (part ++ rest) ∧ front.EndsLines ∧ part.IsLine
    ∧ front.CutsNoLineEnd (part ++ rest)
    ∧ r = (offerAll ⟨Machine.stateAfterLines m.start front, [], .none⟩ part).2

/-- Every step of a reading goes on in the line or begins the next one. -/
theorem isCarried_isInLine (hm : m.continuesLines = false) (input : Bytes) :
    IsCarried (IsInLine (m := m) input) where
  reads {r r' input' rest given} := by
    rintro ⟨front, part, hinput, hfront, hpart, hcut, rfl⟩ h
    have hnone := continuation_offerAll
      (r := ⟨Machine.stateAfterLines m.start front, [], .none⟩) rfl part
    cases h with
    | extend hextend =>
      rw [hnone] at hextend
      exact absurd hextend (by simp [Continuation.extend])
    | join hjoins hrest =>
      simp only [joinsLines, hm] at hjoins
      exact absurd hjoins (by simp)
    | @offer b rest hb hjoins =>
      rw [not_or] at hb
      refine ⟨front, part ++ [b], by simp [hinput], hfront, ?_, by simpa using hcut, ?_⟩
      · exact Bytes.isLine_append.mpr ⟨hpart, List.forall_mem_singleton.mpr hb⟩
      · rw [offerAll_concat]
    | @lineEnd text rest hend hextend =>
      have hend' : EndsLine text [] := ⟨hend.1, fun _ => by simp⟩
      have hcut' : front.CutsNoLineEnd (part ++ (text ++ [])) := by
        intro hlast hhead
        obtain ⟨b, tail, rfl⟩ := hend.exists_eq_cons
        exact hcut hlast (by cases part <;> simpa using hhead)
      -- the line that ends is the last one of those that are complete now
      have hlines : (front ++ (part ++ (text ++ []))).lines = front.lines ++ [part] := by
        rw [Bytes.lines_append hfront hcut', Bytes.lines_lineEnd hpart hend']
        rfl
      refine ⟨front ++ (part ++ (text ++ [])), [], by simp [hinput], ?_, Bytes.isLine_nil, ?_, ?_⟩
      · rw [← List.append_assoc, Bytes.endsLines_lineEnd_iff hend.1]
        exact fun b hb => absurd hb (by simp)
      · rw [List.append_nil, ← List.append_assoc]
        exact Bytes.cutsNoLineEnd_lineEnd hend _
      · rw [Machine.stateAfterLines_of_lines _ hlines, line_eq_offerAll]
        rfl
  forget := by
    rintro r b rest ⟨front, part, hinput, hfront, hpart, hcut, rfl⟩ -
    have hnone := continuation_offerAll
      (r := ⟨Machine.stateAfterLines m.start front, [], .none⟩) rfl part
    exact ⟨front, part, hinput, hfront, hpart, hcut, congrArg (Reading.mk _ _) hnone.symm⟩

end Reading

/-- A tokenizer that joins no lines has read complete lines of its input, and part of a line from
the state behind them on. A CR that it holds back is not read. -/
theorem Tokenizer.exists_inLine (hm : m.continuesLines = false) (buffers : List Bytes) :
    let t := ((fresh m).feedAll buffers).1
    ∃ front part : Bytes, buffers.flatten = front ++ (part ++ t.held.toList) ∧ front.EndsLines
      ∧ part.IsLine
      ∧ t.state = (Reading.offerAll ⟨Machine.stateAfterLines m.start front, [], .none⟩ part).2.state
      := by
  intro t
  have hfresh : (fresh m).Carries (Reading.IsInLine buffers.flatten) (buffers.flatten ++ []) :=
    ⟨[], [], [], by simp [fresh], fun b hb => absurd hb (by simp), Bytes.isLine_nil,
      fun h => absurd h (by simp), rfl⟩
  obtain ⟨run, front, part, hinput, hfront, hpart, -, hreading⟩ :=
    hfresh.feedAll (Reading.isCarried_isInLine hm _)
  rw [List.append_nil] at hinput
  exact ⟨front, part, hinput, hfront, hpart, congrArg Reading.state hreading⟩

end MarkupFeed
