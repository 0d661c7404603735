import MarkupFeed.Proofs.Tokenizer.Agreement

/-!
# The loop of a scan, turn by turn

The loop of a scan comes to its end, and has the machine read an octet twice at most.

`Scan.run` goes from octet to octet. Here an octet that closes a token is left to the next turn of
the loop (`Turn.result`), so that not every turn takes something off the buffer. What every turn
does take is one of the turns that may be left, two for an octet and one fewer between tokens
(`Turn.ResultsIn.turnsLeft_lt`); hence the loop ends, and with what `Scan.run` comes to
(`exists_loops`). What is said of whole loops follows from all that a turn can do
(`Turn.resultsIn_result`): which of them offer one octet (`Loops.areFew_offersAt`), and where in the
buffer they are (`Loops.isAt_of_mem`).
-/

namespace MarkupFeed

variable {m : Machine}

namespace Tokenizer

namespace Scan

/-- Whether the machine is to read the octet: one that is no line end, goes on no line continuation,
and is not kept from the machine as a backslash that joins two lines or may still do so. -/
def offers (s : Scan m) (b : UInt8) (ahead : Ahead) : Bool :=
  (s.continuation.extend b).isNone && b != Octet.lineFeed && b != Octet.carriageReturn
    && !(b = Octet.backslash && s.joinsLines
      && [.unknown, .octet Octet.lineFeed, .octet Octet.carriageReturn].contains ahead)

variable {s s' : Scan m} {b : UInt8} {ahead : Ahead}

theorem advance_of_offers (h : s.offers b ahead = true) :
    s.advance b ahead = .octet (({ s with continuation := .none } : Scan m).offer b) := by
  simp only [offers, Bool.and_eq_true, Option.isNone_iff_eq_none, bne_iff_ne] at h
  obtain ⟨⟨⟨hext, hlf⟩, hcr⟩, hback⟩ := h
  rw [advance, hext]
  dsimp only
  rw [if_neg hlf, if_neg hcr]
  split
  · next hjoins =>
    have hjoins' : (b = Octet.backslash && s.joinsLines) = true := hjoins
    rw [hjoins', Bool.true_and] at hback
    obtain ⟨hunknown, hend⟩ : ahead ≠ .unknown
        ∧ ¬(ahead = .octet Octet.lineFeed ∨ ahead = .octet Octet.carriageReturn) := by
      simpa using hback
    rw [if_neg hend, if_neg hunknown]
  · rfl

theorem run_of_advance {after : Ahead} {rest : Bytes} {next : Next m}
    (h : s.advance b (rest.head?.elim after .octet) = next) :
    Scan.run after (b :: rest) s = next.resume after rest := by
  rw [run_cons, h]

theorem run_of_offers {after : Ahead} {rest : Bytes}
    (h : s.offers b (rest.head?.elim after .octet) = true) :
    Scan.run after (b :: rest) s
      = Scan.run after rest (({ s with continuation := .none } : Scan m).offer b) := by
  rw [run_of_advance (advance_of_offers h)]
  rfl

/-- Between tokens the octet is the machine's again. -/
theorem offers_of_isIdle (h : s.offers b ahead = true) (hc : s'.continuation = .none)
    (hidle : m.isIdle s'.state = true) : s'.offers b ahead = true := by
  simp only [offers, Bool.and_eq_true] at h
  obtain ⟨⟨⟨-, hlf⟩, hcr⟩, -⟩ := h
  simp [offers, hc, hidle, hlf, hcr, joinsLines, Continuation.extend]

theorem offer_of_isIdle (hidle : m.isIdle s.state = true) (b : UInt8) :
    s.offer b = s.take b := by
  unfold offer
  split
  · next hbusy _ => exact absurd hidle (by simp [hbusy])
  · rfl

end Scan

/-! ### One turn -/

/-- A turn of the loop of a scan, with the octet it is about and those behind. -/
structure Turn (m : Machine) where
  scan : Scan m
  octet : UInt8
  rest : Bytes

namespace Turn

/-- What a turn leads to. -/
inductive Result (m : Machine) where
  /-- To one more turn, or to the end of the buffer if nothing is left of it. -/
  | again (s : Scan m) (rest : Bytes)
  /-- To the end of the loop. -/
  | stop (s : Scan m)

/-- What the turn sees behind its octet. -/
def ahead (turn : Turn m) (after : Ahead) : Ahead := turn.rest.head?.elim after .octet

/-- Whether the machine reads the octet in this turn. -/
def isOffer (turn : Turn m) (after : Ahead) : Bool :=
  turn.scan.offers turn.octet (turn.ahead after)

/-- The scan with the token in progress closed in front of the octet. -/
def closed (turn : Turn m) (next : m.State) : Scan m :=
  ({ turn.scan with continuation := .none, state := next } : Scan m).close

/-- The scan with the octet taken. -/
def taken (turn : Turn m) : Scan m :=
  ({ turn.scan with continuation := .none } : Scan m).take turn.octet

theorem isIdle_closed (turn : Turn m) (next : m.State) :
    m.isIdle (turn.closed next).state = true :=
  m.isIdle_finish next

/-- Makes the turn. An octet that closes the token in progress is not taken off the buffer. -/
def result (turn : Turn m) (after : Ahead) : Result m :=
  if turn.isOffer after then
    match m.isIdle turn.scan.state, m.step turn.scan.state turn.octet with
    | false, .reject next => .again (turn.closed next) (turn.octet :: turn.rest)
    | _, _ => .again turn.taken turn.rest
  else
    match turn.scan.advance turn.octet (turn.ahead after), turn.rest with
    | .octet s, rest => .again s rest
    | .afterLineFeed s, [] => .stop { s with skip := 1 }
    | .afterLineFeed s, _ :: rest => .again s rest
    | .wait s, _ => .stop s

/-- The machine has the octet belong to the next token. -/
structure IsRejected (turn : Turn m) (after : Ahead) : Prop where
  isOffer : turn.isOffer after = true
  busy : m.isIdle turn.scan.state = false
  exists_reject : ∃ next, m.step turn.scan.state turn.octet = .reject next

/-- The machine rejects the octet although it is between tokens. -/
structure IsRefused (turn : Turn m) (after : Ahead) : Prop where
  isOffer : turn.isOffer after = true
  isIdle : m.isIdle turn.scan.state = true
  exists_reject : ∃ next, m.step turn.scan.state turn.octet = .reject next

/-- What a turn can result in. -/
inductive ResultsIn (turn : Turn m) (after : Ahead) : Result m → Prop
  /-- The octet closes a token and is still to be read. -/
  | close {next : m.State} (hrejected : turn.IsRejected after)
      (hstep : m.step turn.scan.state turn.octet = .reject next) :
      ResultsIn turn after (.again (turn.closed next) (turn.octet :: turn.rest))
  /-- The octet is taken. -/
  | take (hoffer : turn.isOffer after = true) (htaken : ¬turn.IsRejected after) :
      ResultsIn turn after (.again turn.taken turn.rest)
  /-- The octet is read without the machine. -/
  | pass {s : Scan m} (hoffer : turn.isOffer after = false)
      (hadvance : turn.scan.advance turn.octet (turn.ahead after) = .octet s) :
      ResultsIn turn after (.again s turn.rest)
  /-- So is the LF behind the octet. -/
  | lineFeed {s : Scan m} {b : UInt8} {rest : Bytes} (hoffer : turn.isOffer after = false)
      (hadvance : turn.scan.advance turn.octet (turn.ahead after) = .afterLineFeed s)
      (hrest : turn.rest = b :: rest) : ResultsIn turn after (.again s rest)
  /-- The LF is in the following buffer. -/
  | beyond {s : Scan m} (hoffer : turn.isOffer after = false)
      (hadvance : turn.scan.advance turn.octet (turn.ahead after) = .afterLineFeed s)
      (hrest : turn.rest = []) : ResultsIn turn after (.stop { s with skip := 1 })
  /-- The octet is held back. -/
  | wait {s : Scan m} (hoffer : turn.isOffer after = false)
      (hadvance : turn.scan.advance turn.octet (turn.ahead after) = .wait s) :
      ResultsIn turn after (.stop s)

/-- Nothing else results. -/
theorem resultsIn_result (turn : Turn m) (after : Ahead) :
    turn.ResultsIn after (turn.result after) := by
  unfold result
  split
  · next hoffer =>
    split
    · next next hbusy hstep => exact .close ⟨hoffer, hbusy, next, hstep⟩ hstep
    · next hother =>
      refine .take hoffer ?_
      rintro ⟨-, hbusy, next, hstep⟩
      exact hother next hbusy hstep
  · next hoffer =>
    rw [Bool.not_eq_true] at hoffer
    split
    · next hadvance => exact .pass hoffer hadvance
    · next hadvance hrest => exact .beyond hoffer hadvance hrest
    · next hadvance hrest => exact .lineFeed hoffer hadvance hrest
    · next hadvance => exact .wait hoffer hadvance

theorem resultsIn_of_eq {turn : Turn m} {after : Ahead} {result : Result m}
    (h : turn.result after = result) : turn.ResultsIn after result :=
  h ▸ turn.resultsIn_result after

/-! ### What a turn leaves to do -/

/-- What comes of a scan when the loop goes on. -/
def Result.resume (after : Ahead) : Result m → Scan m
  | .again s rest => Scan.run after rest s
  | .stop s => s.interrupt

variable {turn : Turn m} {after : Ahead} {result : Result m} {s : Scan m} {rest : Bytes}

/-- A turn changes nothing about what comes of a scan. -/
theorem ResultsIn.resume_eq (h : turn.ResultsIn after result) :
    result.resume after = Scan.run after (turn.octet :: turn.rest) turn.scan := by
  cases h with
  | @close next hrejected hstep =>
    -- the next turn takes the octet, as it comes between tokens
    have hidle := turn.isIdle_closed next
    have hagain : (turn.closed next).offers turn.octet (turn.ahead after) = true :=
      Scan.offers_of_isIdle hrejected.isOffer rfl hidle
    have htaken : ({ turn.scan with continuation := .none } : Scan m).offer turn.octet
        = (turn.closed next).take turn.octet := by
      rw [Scan.offer]
      simp only [hrejected.busy, hstep]
      rfl
    rw [Scan.run_of_offers hrejected.isOffer, htaken, Result.resume, Scan.run_of_offers hagain]
    exact congrArg (Scan.run after turn.rest)
      (Scan.offer_of_isIdle (s := turn.closed next) hidle turn.octet)
  | take hoffer htaken =>
    rw [Scan.run_of_offers hoffer, Result.resume, Scan.offer]
    split
    · next next hbusy hstep => exact absurd ⟨hoffer, hbusy, next, hstep⟩ htaken
    · rfl
  | pass hoffer hadvance => exact (Scan.run_of_advance hadvance).symm
  | lineFeed hoffer hadvance hrest =>
    rw [Scan.run_of_advance hadvance, hrest]
    rfl
  | beyond hoffer hadvance hrest =>
    rw [Scan.run_of_advance hadvance, hrest]
    rfl
  | wait hoffer hadvance => exact (Scan.run_of_advance hadvance).symm

/-- The turns that may be left: two for every octet, but between tokens one fewer. -/
def turnsLeft (s : Scan m) (rest : Bytes) : Nat :=
  2 * rest.length - if m.isIdle s.state then 1 else 0

/-- Every turn is one of those that were left. -/
theorem ResultsIn.turnsLeft_lt (h : turn.ResultsIn after (.again s rest)) :
    turnsLeft s rest < turnsLeft turn.scan (turn.octet :: turn.rest) := by
  unfold turnsLeft
  cases h with
  | close hrejected hstep =>
    rw [if_pos (turn.isIdle_closed _), if_neg (by simp [hrejected.busy]), List.length_cons]
    omega
  | take hoffer htaken =>
    rw [List.length_cons]
    split <;> split <;> omega
  | pass hoffer hadvance =>
    rw [List.length_cons]
    split <;> split <;> omega
  | lineFeed hoffer hadvance hrest =>
    rw [hrest, List.length_cons, List.length_cons]
    split <;> split <;> omega

theorem ResultsIn.length_le (h : turn.ResultsIn after (.again s rest))
    (hnot : ¬turn.IsRejected after) : rest.length ≤ turn.rest.length := by
  cases h with
  | close hrejected => exact absurd hrejected hnot
  | take => exact Nat.le_refl _
  | pass => exact Nat.le_refl _
  | lineFeed _ _ hrest =>
    rw [hrest, List.length_cons]
    exact Nat.le_succ _

/-- An octet that is refused is taken off the buffer. -/
theorem IsRefused.result_eq (h : turn.IsRefused after) :
    turn.result after = .again turn.taken turn.rest := by
  rw [result, if_pos h.isOffer, h.isIdle]

end Turn

/-! ### The place of a scan in its buffer -/

namespace Scan

/-- The place of the next octet. -/
def place (s : Scan m) : Nat := s.first + s.piece.length

/-- A scan of the same buffer that is so many octets further on. What had been found stays found. -/
structure Passes (s : Scan m) (count : Nat) (s' : Scan m) : Prop where
  length_eq : s'.length = s.length
  place_eq : s'.place = s.place + count
  found : s.found <:+ s'.found

variable {s s' s'' : Scan m} {count more : Nat}

theorem Passes.trans (h : s.Passes count s') (hmore : s'.Passes more s'') :
    s.Passes (count + more) s'' where
  length_eq := hmore.length_eq.trans h.length_eq
  place_eq := by rw [hmore.place_eq, h.place_eq, Nat.add_assoc]
  found := h.found.trans hmore.found

theorem passes_emit (s : Scan m) (kind : m.Kind) (fragment : Bool) :
    s.Passes 0 (s.emit kind fragment) :=
  ⟨rfl, rfl, List.suffix_cons _ _⟩

theorem passes_close (s : Scan m) : s.Passes 0 s.close := ⟨rfl, rfl, List.suffix_cons _ _⟩

theorem passes_interrupt (s : Scan m) : s.Passes 0 s.interrupt := by
  unfold interrupt
  split
  · exact ⟨rfl, rfl, List.suffix_refl _⟩
  · exact s.passes_emit _ true

theorem passes_take (s : Scan m) (b : UInt8) : s.Passes 1 (s.take b) := by
  unfold take
  split
  · exact ⟨rfl, rfl, List.suffix_refl _⟩
  · exact ⟨rfl, rfl, List.suffix_cons _ _⟩
  · exact ⟨rfl, rfl, List.suffix_cons _ _⟩

theorem passes_offer (s : Scan m) (b : UInt8) : s.Passes 1 (s.offer b) := by
  unfold offer
  split
  · next next _ _ =>
    have hclose : s.Passes 0 ({ s with state := next } : Scan m).close :=
      ⟨rfl, rfl, List.suffix_cons _ _⟩
    exact hclose.trans (passes_take _ b)
  · exact s.passes_take b

theorem passes_endLine (s : Scan m) : s.Passes 0 s.endLine := by
  unfold endLine
  split
  · exact ⟨rfl, rfl, List.suffix_refl _⟩
  · split
    · exact s.passes_interrupt
    · exact s.passes_close

theorem passes_lineEnd (s : Scan m) (text : Bytes) :
    s.Passes text.length (s.endLine.newline text) := by
  have hnewline : s.endLine.Passes text.length (s.endLine.newline text) :=
    ⟨rfl, rfl, List.suffix_cons _ _⟩
  have h := s.passes_endLine.trans hnewline
  rwa [Nat.zero_add] at h

/-- How far a scan is when it goes on after an octet. -/
def Next.Passes (next : Next m) (s : Scan m) : Prop :=
  match next with
  | .octet s' => s.Passes 1 s'
  | .afterLineFeed s' => s.Passes 2 s'
  | .wait s' => s.Passes 0 s'

theorem passes_advance (s : Scan m) (b : UInt8) (ahead : Ahead) :
    (s.advance b ahead).Passes s := by
  have hforget : s.Passes 0 { s with continuation := .none } := ⟨rfl, rfl, List.suffix_refl _⟩
  have hoffer : s.Passes 1 (({ s with continuation := .none } : Scan m).offer b) :=
    hforget.trans (passes_offer _ b)
  have hend : ∀ text : Bytes, s.Passes text.length
      (({ s with continuation := .none } : Scan m).endLine.newline text) := fun text => by
    have h := hforget.trans (passes_lineEnd _ text)
    rwa [Nat.zero_add] at h
  unfold advance
  split
  · exact ⟨rfl, rfl, List.suffix_refl _⟩
  · dsimp only
    split
    · exact hend [b]
    · split
      · split
        · exact hend [b, Octet.lineFeed]
        · split
          · exact ⟨rfl, rfl, List.suffix_refl _⟩
          · exact hend [b]
      · split
        · split
          · exact ⟨rfl, rfl, List.suffix_refl _⟩
          · split
            · exact ⟨rfl, rfl, List.suffix_refl _⟩
            · exact hoffer
        · exact hoffer

/-- The scan is in the buffer, in front of the octets. -/
structure IsAt (s : Scan m) (buffer rest : Bytes) : Prop where
  length_eq : s.length = buffer.length
  drop_eq : buffer.drop s.place = rest

theorem IsAt.passes {buffer rest : Bytes} (h : s.IsAt buffer rest) (hpasses : s.Passes count s') :
    s'.IsAt buffer (rest.drop count) where
  length_eq := hpasses.length_eq.trans h.length_eq
  drop_eq := by rw [hpasses.place_eq, ← List.drop_drop, h.drop_eq]

theorem IsAt.exists_before {buffer rest : Bytes} {b : UInt8} (h : s.IsAt buffer (b :: rest)) :
    ∃ before : Bytes, buffer = before ++ b :: rest ∧ before.length = s.place := by
  refine ⟨buffer.take s.place, ?_, ?_⟩
  · rw [← h.drop_eq, List.take_append_drop]
  · have hlength : 0 < (buffer.drop s.place).length := by
      rw [h.drop_eq]
      exact Nat.succ_pos _
    rw [List.length_drop] at hlength
    rw [List.length_take]
    omega

end Scan

namespace Turn

variable {turn : Turn m} {after : Ahead} {result : Result m}

/-- The scan a turn leads to. -/
def Result.scan : Result m → Scan m
  | .again s _ | .stop s => s

/-- A turn goes as far as it takes octets off the buffer. -/
theorem ResultsIn.exists_passes (h : turn.ResultsIn after result) :
    ∃ count, turn.scan.Passes count result.scan
      ∧ ∀ s rest, result = .again s rest → rest = (turn.octet :: turn.rest).drop count := by
  have hadvance := turn.scan.passes_advance turn.octet (turn.ahead after)
  cases h with
  | close =>
    refine ⟨0, ⟨rfl, rfl, List.suffix_cons _ _⟩, ?_⟩
    rintro s rest ⟨⟩
    rfl
  | take =>
    have hforget : turn.scan.Passes 0 { turn.scan with continuation := .none } :=
      ⟨rfl, rfl, List.suffix_refl _⟩
    refine ⟨1, hforget.trans (Scan.passes_take _ turn.octet), ?_⟩
    rintro s rest ⟨⟩
    rfl
  | pass _ heq =>
    rw [heq] at hadvance
    refine ⟨1, hadvance, ?_⟩
    rintro s rest ⟨⟩
    rfl
  | lineFeed _ heq hrest =>
    rw [heq] at hadvance
    refine ⟨2, hadvance, ?_⟩
    rintro s rest ⟨⟩
    rw [hrest]
    rfl
  | beyond _ heq =>
    rw [heq] at hadvance
    exact ⟨2, ⟨hadvance.length_eq, hadvance.place_eq, hadvance.found⟩, nofun⟩
  | wait _ heq =>
    rw [heq] at hadvance
    exact ⟨0, hadvance, nofun⟩

end Turn

/-! ### The whole loop -/

/-- The turns of the loop of a scan, one after the other, and the scan they end with. -/
inductive Loops (after : Ahead) : Scan m → Bytes → List (Turn m) → Scan m → Prop
  /-- There is nothing left to read. -/
  | done (s : Scan m) : Loops after s [] [] s
  /-- A turn ends the loop. -/
  | stop {s last : Scan m} {b : UInt8} {rest : Bytes}
      (hresult : Turn.result ⟨s, b, rest⟩ after = .stop last) :
      Loops after s (b :: rest) [⟨s, b, rest⟩] last
  /-- A turn leads to others. -/
  | again {s s' last : Scan m} {b : UInt8} {rest rest' : Bytes} {turns : List (Turn m)}
      (hresult : Turn.result ⟨s, b, rest⟩ after = .again s' rest')
      (hmore : Loops after s' rest' turns last) :
      Loops after s (b :: rest) (⟨s, b, rest⟩ :: turns) last

/-- The turns in which the machine reads the octet with so many others behind it. -/
def offersAt (after : Ahead) (turns : List (Turn m)) (behind : Nat) : List (Turn m) :=
  turns.filter fun turn => turn.isOffer after && turn.rest.length == behind

/-- The turns in which the machine reads an octet: none, one, or one in which it is in a token that
the octet does not belong to, and one between tokens. -/
inductive AreFew (after : Ahead) : List (Turn m) → Prop
  | none : AreFew after []
  | one (turn : Turn m) : AreFew after [turn]
  | two {first second : Turn m} (hrejected : first.IsRejected after)
      (hidle : m.isIdle second.scan.state = true) : AreFew after [first, second]

/-- The loop ends, and what comes of the scan is what it ends with. -/
theorem exists_loops (after : Ahead) (s : Scan m) (rest : Bytes) :
    ∃ (turns : List (Turn m)) (last : Scan m), Loops after s rest turns last
      ∧ Scan.run after rest s = last.interrupt ∧ turns.length ≤ Turn.turnsLeft s rest := by
  -- the induction is on the turns that are left
  induction hleft : Turn.turnsLeft s rest using Nat.strongRecOn generalizing s rest with
  | ind left ih =>
    cases rest with
    | nil => exact ⟨[], s, .done s, rfl, Nat.zero_le _⟩
    | cons b rest =>
      cases hresult : Turn.result ⟨s, b, rest⟩ after with
      | stop last =>
        have hresume := (Turn.resultsIn_of_eq hresult).resume_eq
        refine ⟨[⟨s, b, rest⟩], last, .stop hresult, hresume.symm, ?_⟩
        rw [← hleft, Turn.turnsLeft, List.length_singleton, List.length_cons]
        split <;> omega
      | again s' rest' =>
        have hturn := Turn.resultsIn_of_eq hresult
        have hresume := hturn.resume_eq
        have hlt := hturn.turnsLeft_lt
        obtain ⟨turns, last, hloops, hrun, hlength⟩ := ih _ (hleft ▸ hlt) s' rest' rfl
        refine ⟨⟨s, b, rest⟩ :: turns, last, .again hresult hloops, hresume.symm.trans hrun, ?_⟩
        rw [List.length_cons, ← hleft]
        exact Nat.lt_of_le_of_lt hlength hlt

namespace Loops

variable {after : Ahead} {s last : Scan m} {rest : Bytes} {turns : List (Turn m)}

theorem found_suffix (h : Loops after s rest turns last) : s.found <:+ last.found := by
  induction h with
  | done => exact List.suffix_refl _
  | @stop s last b rest hresult =>
    obtain ⟨_, hpasses, -⟩ := (Turn.resultsIn_of_eq hresult).exists_passes
    exact hpasses.found
  | @again s s' last b rest rest' turns hresult hmore ih =>
    obtain ⟨_, hpasses, -⟩ := (Turn.resultsIn_of_eq hresult).exists_passes
    exact hpasses.found.trans ih

/-- Every turn is at its octet in the buffer, and the loop ends with what it finds. -/
theorem isAt_of_mem {buffer : Bytes} (h : Loops after s rest turns last)
    (hat : s.IsAt buffer rest) :
    ∀ turn ∈ turns, turn.scan.IsAt buffer (turn.octet :: turn.rest)
      ∧ (turn.result after).scan.found <:+ last.found := by
  induction h with
  | done => exact List.forall_mem_nil _
  | stop hresult =>
    refine List.forall_mem_singleton.mpr ⟨hat, ?_⟩
    rw [hresult]
    exact List.suffix_refl _
  | @again s s' last b rest rest' turns hresult hmore ih =>
    obtain ⟨count, hpasses, hrest⟩ := (Turn.resultsIn_of_eq hresult).exists_passes
    have hat' : s'.IsAt buffer rest' := by
      rw [hrest s' rest' rfl]
      exact hat.passes hpasses
    refine List.forall_mem_cons.mpr ⟨⟨hat, ?_⟩, ih hat'⟩
    rw [hresult]
    exact hmore.found_suffix

theorem length_lt_of_mem (h : Loops after s rest turns last) :
    ∀ turn ∈ turns, turn.rest.length < rest.length := by
  induction h with
  | done => exact List.forall_mem_nil _
  | stop => exact List.forall_mem_singleton.mpr (Nat.lt_succ_self _)
  | @again s s' last b rest rest' turns hresult hmore ih =>
    have hturn := Turn.resultsIn_of_eq hresult
    have hle : rest'.length ≤ (b :: rest).length := by
      obtain ⟨count, -, hrest⟩ := hturn.exists_passes
      rw [hrest s' rest' rfl, List.length_drop]
      exact Nat.sub_le _ _
    refine List.forall_mem_cons.mpr ⟨Nat.lt_succ_self _, fun turn hmem => ?_⟩
    exact Nat.lt_of_lt_of_le (ih turn hmem) hle

theorem offersAt_eq_nil (h : Loops after s rest turns last) {behind : Nat}
    (hle : rest.length ≤ behind) : offersAt after turns behind = [] := by
  refine List.filter_eq_nil_iff.mpr fun turn hmem => ?_
  have hlt := h.length_lt_of_mem turn hmem
  have hne : turn.rest.length ≠ behind := by omega
  simp [hne]

theorem offersAt_cons (after : Ahead) (turn : Turn m) (turns : List (Turn m)) (behind : Nat) :
    offersAt after (turn :: turns) behind
      = (if turn.isOffer after && turn.rest.length == behind then [turn] else [])
        ++ offersAt after turns behind := by
  rw [offersAt, List.filter_cons]
  split <;> rfl

/-- With no offer in later turns, there is at most that of the first. -/
theorem areFew_cons {turn : Turn m} {behind : Nat} (h : offersAt after turns behind = []) :
    AreFew after (offersAt after (turn :: turns) behind) := by
  rw [offersAt_cons, h, List.append_nil]
  split
  · exact .one turn
  · exact .none

/-- A loop that begins between tokens offers its first octet in its first turn only. -/
theorem offersAt_of_isIdle {b : UInt8} (h : Loops after s (b :: rest) turns last)
    (hidle : m.isIdle s.state = true) :
    offersAt after turns rest.length = []
      ∨ ∃ turn, m.isIdle turn.scan.state = true ∧ offersAt after turns rest.length = [turn] := by
  have hfirst : ∀ more : List (Turn m), offersAt after more rest.length = [] →
      offersAt after (⟨s, b, rest⟩ :: more) rest.length = []
        ∨ ∃ turn, m.isIdle turn.scan.state = true
          ∧ offersAt after (⟨s, b, rest⟩ :: more) rest.length = [turn] := fun more hmore => by
    rw [offersAt_cons, hmore, List.append_nil]
    split
    · exact .inr ⟨_, hidle, rfl⟩
    · exact .inl rfl
  cases h with
  | stop => exact hfirst [] rfl
  | @again _ s' _ _ _ rest' more hresult hmore =>
    have hturn := Turn.resultsIn_of_eq hresult
    have hnot : ¬Turn.IsRejected ⟨s, b, rest⟩ after := fun h =>
      absurd h.busy (by simp [hidle])
    exact hfirst more (hmore.offersAt_eq_nil (hturn.length_le hnot))

theorem areFew_offersAt (h : Loops after s rest turns last) (behind : Nat) :
    AreFew after (offersAt after turns behind) := by
  induction h with
  | done => exact .none
  | stop => exact areFew_cons rfl
  | @again s s' last b rest rest' turns hresult hmore ih =>
    by_cases hbehind : rest.length = behind
    · subst hbehind
      have hturn := Turn.resultsIn_of_eq hresult
      by_cases hrejected : Turn.IsRejected ⟨s, b, rest⟩ after
      · -- the octet is still the next one, and the machine between tokens
        cases hturn with
        | @close next _ hstep =>
          have hidle : m.isIdle (Turn.closed ⟨s, b, rest⟩ next).state = true :=
            Turn.isIdle_closed _ next
          rcases hmore.offersAt_of_isIdle hidle with hnone | ⟨second, hsecond, hone⟩
          · exact areFew_cons hnone
          · rw [offersAt_cons, hone, hrejected.isOffer]
            simp only [beq_self_eq_true, Bool.and_self, if_true]
            exact .two hrejected hsecond
        | take _ hnot => exact absurd hrejected hnot
        | pass hoffer => exact absurd hrejected.isOffer (by simp [hoffer])
        | lineFeed hoffer => exact absurd hrejected.isOffer (by simp [hoffer])
      · exact areFew_cons (hmore.offersAt_eq_nil (hturn.length_le hrejected))
    · rw [offersAt_cons, if_neg (by simp [hbehind])]
      exact ih

end Loops

theorem Turn.IsRefused.found_taken {turn : Turn m} {after : Ahead} (h : turn.IsRefused after) :
    m.isIdle turn.taken.state = true
      ∧ turn.taken.found = ⟨.token TokenKind.error [turn.octet] false, turn.scan.place,
          turn.scan.length⟩ :: turn.scan.found := by
  obtain ⟨next, hstep⟩ := h.exists_reject
  rw [Turn.taken, Scan.take]
  simp only [hstep]
  exact ⟨m.isIdle_finish next, rfl⟩

end Tokenizer

end MarkupFeed
