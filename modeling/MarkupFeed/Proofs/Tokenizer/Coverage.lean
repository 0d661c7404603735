import MarkupFeed.Proofs.Tokenizer.Chunking

/-!
# Reports are parts of buffers

Every report of a tokenizer is a part of the buffer it is made through, at the place it gives.

A report is made through a buffer that was fed, or through one of the tokenizer's own: a held octet
by itself, CR LF when the two come in different buffers, or no octets at all when the end of the
input closes a token (`ownBuffers`). `Scan.Within` is the invariant of a scan: its buffer is what it
has reported, then the current piece, then what it has still to read. The main statement is
`exists_isPart_of_mem_reports`.
-/

namespace MarkupFeed

/-- The report is a part of the buffer, and says where in it. -/
structure Report.IsPart {κ : Type} (report : Report κ) (buffer : Bytes) : Prop where
  length_eq : report.length = buffer.length
  first_le : report.first ≤ report.last
  last_le : report.last ≤ buffer.length
  text_eq : report.event.text = (buffer.drop report.first).take (report.last - report.first)

theorem Report.isPart_of_eq {κ : Type} (report : Report κ) {before after : Bytes}
    (hlength : report.length = (before ++ report.event.text ++ after).length)
    (hfirst : report.first = before.length) :
    report.IsPart (before ++ report.event.text ++ after) where
  length_eq := hlength
  first_le := Nat.le_add_right _ _
  last_le := by
    rw [Report.last, hfirst, List.length_append, List.length_append]
    omega
  text_eq := by
    rw [Report.last, hfirst, Nat.add_sub_cancel_left, List.append_assoc]
    simp

variable {m : Machine}

namespace Tokenizer

/-- The buffers a tokenizer reports through beside those it is fed. -/
def ownBuffers : List Bytes :=
  [[], [Octet.carriageReturn], [Octet.backslash], [Octet.carriageReturn, Octet.lineFeed]]

namespace Scan

/-- All reports so far are parts of the buffer or of a line end that goes beyond it. -/
def ReportsParts (s : Scan m) (buffer : Bytes) : Prop :=
  ∀ report ∈ s.found,
    report.IsPart buffer ∨ report.IsPart [Octet.carriageReturn, Octet.lineFeed]

/-- The buffer of a scan: the octets in front of the current piece, the piece, and the octets the
scan has still to read. -/
structure Within (s : Scan m) (buffer rest : Bytes) : Prop where
  length_eq : s.length = buffer.length
  exists_before : ∃ before : Bytes, before.length = s.first
    ∧ buffer = before ++ s.piece.reverse ++ rest
  reportsParts : s.ReportsParts buffer

variable {s : Scan m} {buffer rest : Bytes}

/-! ### Operations of a scan -/

/-- The state of the machine, what is held and what is skipped have no part in it. -/
theorem Within.congr {s' : Scan m} (h : s.Within buffer rest) (hlength : s'.length = s.length)
    (hfirst : s'.first = s.first) (hpiece : s'.piece = s.piece) (hfound : s'.found = s.found) :
    s'.Within buffer rest where
  length_eq := hlength.trans h.length_eq
  exists_before := by rw [hfirst, hpiece]; exact h.exists_before
  reportsParts := by rw [ReportsParts, hfound]; exact h.reportsParts

theorem within_emit (h : s.Within buffer rest) (kind : m.Kind) (fragment : Bool) :
    (s.emit kind fragment).Within buffer rest := by
  obtain ⟨before, hbefore, hbuffer⟩ := h.exists_before
  refine ⟨h.length_eq, ⟨before ++ s.piece.reverse, ?_, ?_⟩, ?_⟩
  · show _ = s.first + s.piece.length
    rw [List.length_append, hbefore, List.length_reverse]
  · show buffer = before ++ s.piece.reverse ++ [] ++ rest
    rw [List.append_nil, hbuffer]
  · intro report hmem
    rcases List.mem_cons.1 hmem with rfl | hmem
    · left
      rw [hbuffer]
      refine Report.isPart_of_eq ⟨.token kind s.piece.reverse fragment, s.first, s.length⟩
        ?_ hbefore.symm
      show s.length = (before ++ s.piece.reverse ++ rest).length
      rw [h.length_eq, hbuffer]
    · exact h.reportsParts report hmem

theorem within_close (h : s.Within buffer rest) : s.close.Within buffer rest :=
  within_emit (s := { s with state := (m.finish s.state).2 }) (h.congr rfl rfl rfl rfl) _ false

theorem within_interrupt (h : s.Within buffer rest) : s.interrupt.Within buffer rest := by
  unfold interrupt
  split
  · exact h
  · exact within_emit h _ true

/-- An octet moves from the rest to the piece. -/
theorem Within.keep {b : UInt8} (h : s.Within buffer (b :: rest)) :
    ({ s with piece := b :: s.piece } : Scan m).Within buffer rest := by
  obtain ⟨before, hbefore, hbuffer⟩ := h.exists_before
  refine ⟨h.length_eq, ⟨before, hbefore, ?_⟩, h.reportsParts⟩
  show buffer = before ++ (b :: s.piece).reverse ++ rest
  rw [hbuffer]
  simp

theorem within_take {b : UInt8} (h : s.Within buffer (b :: rest))
    (hr : ∀ next, m.step s.state b = .reject next → s.piece = []) :
    (s.take b).Within buffer rest := by
  unfold take
  split
  · exact h.keep.congr rfl rfl rfl rfl
  · next next _ =>
    exact within_close (s := { s with state := next, piece := b :: s.piece })
      (h.keep.congr rfl rfl rfl rfl)
  · next next hstep =>
    have hpiece : s.piece = [] := hr next hstep
    refine within_emit (s := { s with
      state := (m.finish next).2, first := s.first + s.piece.length, piece := [b] }) ?_ _ false
    refine h.keep.congr rfl ?_ ?_ rfl
    · show s.first + s.piece.length = s.first
      rw [hpiece, List.length_nil, Nat.add_zero]
    · show [b] = b :: s.piece
      rw [hpiece]

theorem within_offer {b : UInt8} (h : s.Within buffer (b :: rest))
    (hidle : m.isIdle s.state = true → s.piece = []) : (s.offer b).Within buffer rest := by
  unfold offer
  split
  · next next _ _ =>
    have hclosed := within_close (s := { s with state := next }) (h.congr rfl rfl rfl rfl)
    exact within_take hclosed fun _ _ => rfl
  · next hother =>
    refine within_take h ?_
    intro next hstep
    have hidle' : m.isIdle s.state = true :=
      eq_true_of_ne_false fun hbusy => hother next hbusy hstep
    exact hidle hidle'

theorem within_endLine (h : s.Within buffer rest) : s.endLine.Within buffer rest := by
  unfold endLine
  split
  · exact h
  · split
    · exact within_interrupt h
    · exact within_close h

/-- A line end within the buffer. -/
theorem within_newline (text : Bytes) (h : s.Within buffer (text ++ rest)) :
    (s.newline text).Within buffer rest := by
  obtain ⟨before, hbefore, hbuffer⟩ := h.exists_before
  have hhere : (before ++ s.piece.reverse).length = s.first + s.piece.length := by
    rw [List.length_append, hbefore, List.length_reverse]
  have hlength : s.length = (before ++ s.piece.reverse ++ text ++ rest).length := by
    rw [h.length_eq, hbuffer, List.append_assoc _ text]
  have hfits : s.first + s.piece.length + text.length ≤ s.length := by
    rw [hlength, List.length_append, List.length_append, hhere]
    omega
  refine ⟨h.length_eq, ⟨before ++ s.piece.reverse ++ text, ?_, ?_⟩, ?_⟩
  · show _ = s.first + s.piece.length + text.length
    rw [List.length_append, hhere]
  · show buffer = before ++ s.piece.reverse ++ text ++ [] ++ rest
    rw [List.append_nil, hbuffer, List.append_assoc _ text]
  · intro report hmem
    rcases List.mem_cons.1 hmem with rfl | hmem
    · left
      rw [if_pos hfits, hbuffer, ← List.append_assoc]
      exact Report.isPart_of_eq ⟨.newline text, s.first + s.piece.length, s.length⟩
        hlength hhere.symm
    · exact h.reportsParts report hmem

/-- A line end that goes beyond the buffer. -/
theorem reportsParts_newline (h : s.Within buffer [Octet.carriageReturn]) :
    (s.newline [Octet.carriageReturn, Octet.lineFeed]).ReportsParts buffer := by
  obtain ⟨before, hbefore, hbuffer⟩ := h.exists_before
  have hbeyond : ¬s.first + s.piece.length
      + [Octet.carriageReturn, Octet.lineFeed].length ≤ s.length := by
    rw [h.length_eq, hbuffer, ← hbefore]
    simp only [List.length_append, List.length_reverse, List.length_cons, List.length_nil]
    omega
  intro report hmem
  rcases List.mem_cons.1 hmem with rfl | hmem
  · right
    rw [if_neg hbeyond]
    exact @Report.isPart_of_eq _ ⟨.newline [Octet.carriageReturn, Octet.lineFeed], 0, 2⟩ [] []
      rfl rfl
  · exact h.reportsParts report hmem

/-! ### One octet -/

/-- An octet that a tokenizer may hold back. -/
def IsHoldable (b : UInt8) : Prop := b = Octet.carriageReturn ∨ b = Octet.backslash

/-- How the scan of an octet leaves the buffer: with the rest to read, with what follows the LF in
front of the rest, or with the octet itself. -/
def Next.Within (next : Next m) (buffer : Bytes) (b : UInt8) (rest : Bytes) : Prop :=
  match next with
  | .octet s => s.Within buffer rest
  | .afterLineFeed s =>
    (∀ tail, rest = Octet.lineFeed :: tail → s.Within buffer tail)
      ∧ (rest = [] → s.piece = [] ∧ s.ReportsParts buffer)
  | .wait s => s.Within buffer (b :: rest) ∧ IsHoldable b

theorem within_advance {b : UInt8} (ahead : Ahead) (h : s.Within buffer (b :: rest))
    (hidle : m.isIdle s.state = true → s.piece = []) :
    (s.advance b ahead).Within buffer b rest := by
  have hforget : ({ s with continuation := .none } : Scan m).Within buffer (b :: rest) :=
    h.congr rfl rfl rfl rfl
  have hoffer := within_offer hforget hidle
  have hend := within_endLine hforget
  unfold advance
  split
  · exact h.keep.congr rfl rfl rfl rfl
  · dsimp only
    split
    · exact within_newline [b] hend
    · split
      · next hcr =>
        subst hcr
        split
        · -- the LF is in this buffer, or the line end goes beyond it
          constructor
          · rintro tail rfl
            exact within_newline [Octet.carriageReturn, Octet.lineFeed] hend
          · rintro rfl
            exact ⟨rfl, reportsParts_newline hend⟩
        · split
          · exact ⟨hforget.congr rfl rfl rfl rfl, .inl rfl⟩
          · exact within_newline [Octet.carriageReturn] hend
      · split
        · next hback =>
          split
          · exact hforget.keep.congr rfl rfl rfl rfl
          · split
            · refine ⟨hforget.congr rfl rfl rfl rfl, .inr ?_⟩
              simp only [Bool.and_eq_true, decide_eq_true_eq] at hback
              exact hback.1
            · exact hoffer
        · exact hoffer

/-! ### One buffer -/

/-- What a scan has reported, and what it holds, at the end of its buffer. -/
theorem reportsParts_run (hm : m.IsSteady) {run : Option (m.Kind × Bytes)}
    {total : List (Event m.Kind)} {after : Ahead} {later : Bytes} (hfits : after.Fits later)
    (h : s.Leads run total (rest ++ later)) (hw : s.Within buffer rest) (hheld : s.held = none)
    (hskip : s.skip = 0) :
    (Scan.run after rest s).ReportsParts buffer
      ∧ ∀ b, (Scan.run after rest s).held = some b → IsHoldable b := by
  have hahead : ∀ rest : Bytes, (rest.head?.elim after .octet : Ahead).Fits (rest ++ later) :=
    hfits.ahead
  have hidle : ∀ {s : Scan m} {rest : Bytes}, s.Leads run total rest →
      m.isIdle s.state = true → s.piece = [] := by
    rintro s rest ⟨_, _, hf, _⟩ hidle
    exact (hf.of_idle hidle).1
  fun_induction Scan.run after rest s with
  | case1 s =>
    -- the end of the buffer
    have hnone : s.interrupt.held = none := (kept_interrupt s).1.trans hheld
    refine ⟨(within_interrupt hw).reportsParts, ?_⟩
    intro b hb
    rw [hnone] at hb
    exact absurd hb (by simp)
  | case2 b rest s s' hadv ih =>
    have hnext := leads_advance hm h (hahead rest)
    have hwnext := within_advance (rest.head?.elim after .octet) hw (hidle h)
    rw [hadv] at hnext hwnext
    obtain ⟨hl, hheld', hskip'⟩ := hnext
    exact ih hl hwnext (hheld'.trans hheld) (hskip'.trans hskip)
  | case3 b rest s s' hadv =>
    have hnext := leads_advance hm h (hahead rest)
    have hwnext := within_advance (rest.head?.elim after .octet) hw (hidle h)
    rw [hadv] at hnext hwnext
    obtain ⟨-, -, hheld', -⟩ := hnext
    obtain ⟨hinside, hholdable⟩ := hwnext
    refine ⟨(within_interrupt hinside).reportsParts, ?_⟩
    intro b' hb'
    rw [(kept_interrupt s').1, hheld'] at hb'
    exact Option.some.inj hb' ▸ hholdable
  | case4 b s s' hadv =>
    have hnext := leads_advance hm h (hahead [])
    have hwnext := within_advance (([] : Bytes).head?.elim after .octet) hw (hidle h)
    rw [hadv] at hnext hwnext
    obtain ⟨-, -, hheld', -⟩ := hnext
    -- the line end goes beyond the buffer and leaves no piece to report
    obtain ⟨hpiece, hparts⟩ := hwnext.2 rfl
    have hinterrupt : ({ s' with skip := 1 } : Scan m).interrupt = { s' with skip := 1 } := by
      unfold interrupt
      simp [hpiece]
    rw [hinterrupt]
    refine ⟨hparts, ?_⟩
    intro b hb
    exact absurd (hheld.symm.trans (hheld'.symm.trans hb)) (by simp)
  | case5 b s s' x rest hadv ih =>
    have hnext := leads_advance hm h (hahead (x :: rest))
    have hwnext := within_advance ((x :: rest).head?.elim after .octet) hw (hidle h)
    rw [hadv] at hnext hwnext
    obtain ⟨-, ⟨tail, hrest, hl⟩, hheld', hskip'⟩ := hnext
    obtain ⟨rfl, rfl⟩ : x = Octet.lineFeed ∧ rest ++ later = tail := List.cons.inj hrest
    exact ih hl (hwnext.1 rest rfl) (hheld'.trans hheld) (hskip'.trans hskip)

end Scan

/-! ### A sequence of buffers -/

variable {t : Tokenizer m} {run : Option (m.Kind × Bytes)} {total : List (Event m.Kind)}

/-- Only octets that may be held are held. -/
def HoldsHoldable (t : Tokenizer m) : Prop := ∀ b, t.held = some b → Scan.IsHoldable b

/-- The report is a part of one of the buffers or of one of the tokenizer's own. -/
def IsPartOfOne (buffers : List Bytes) (report : Report m.Kind) : Prop :=
  ∃ buffer ∈ buffers ++ ownBuffers, report.IsPart buffer

theorem IsPartOfOne.mono {buffers more : List Bytes} {report : Report m.Kind}
    (h : IsPartOfOne buffers report) (hsub : ∀ buffer ∈ buffers, buffer ∈ more) :
    IsPartOfOne more report := by
  obtain ⟨buffer, hmem, hpart⟩ := h
  rcases List.mem_append.1 hmem with hmem | hmem
  · exact ⟨buffer, List.mem_append_left _ (hsub buffer hmem), hpart⟩
  · exact ⟨buffer, List.mem_append_right _ hmem, hpart⟩

theorem Scan.ReportsParts.isPartOfOne {s : Scan m} {buffer : Bytes} {buffers : List Bytes}
    (h : s.ReportsParts buffer) (hmem : buffer ∈ buffers ++ ownBuffers) :
    ∀ report ∈ s.found.reverse, IsPartOfOne buffers report := by
  intro report hreport
  rcases h report (List.mem_reverse.1 hreport) with hpart | hpart
  · exact ⟨buffer, hmem, hpart⟩
  · exact ⟨_, List.mem_append_right _ (by simp [ownBuffers]), hpart⟩

/-- A scan that begins is within its buffer. -/
theorem within_scan {buffer : Bytes} {start : Nat} (hstart : start ≤ buffer.length) :
    ({ t with length := buffer.length, first := start } : Scan m).Within buffer
      (buffer.drop start) where
  length_eq := rfl
  exists_before := by
    refine ⟨buffer.take start, ?_, ?_⟩
    · rw [List.length_take, Nat.min_eq_left hstart]
    · show buffer = buffer.take start ++ [] ++ buffer.drop start
      rw [List.append_nil, List.take_append_drop]
  reportsParts := List.forall_mem_nil _

theorem isPartOfOne_release (hm : m.IsSteady) {after : Ahead} {rest : Bytes}
    (h : t.Leads run total rest) (hfits : after.Fits rest) (hheld : t.HoldsHoldable) :
    ∀ report ∈ (t.release after).found.reverse, IsPartOfOne [] report := by
  unfold Tokenizer.release
  cases heq : t.held with
  | none =>
    intro report hmem
    exact absurd hmem (by simp)
  | some b =>
    have hwithin : ({ t with held := none, length := 1, first := 0 } : Scan m).Within [b] [b] :=
      within_scan (t := { t with held := none }) (Nat.zero_le [b].length)
    obtain ⟨hparts, -⟩ := Scan.reportsParts_run hm hfits (h.scanHeld heq) hwithin rfl rfl
    -- the buffer of a held octet is the octet itself
    have hown : [b] ∈ ownBuffers := by
      rcases hheld b heq with rfl | rfl <;> simp [ownBuffers]
    exact hparts.isPartOfOne (List.mem_append_right _ hown)

theorem isPartOfOne_feed (hm : m.IsSteady) {buffer rest : Bytes}
    (h : t.Leads run total (buffer ++ rest)) (hheld : t.HoldsHoldable) :
    (∀ report ∈ (t.feed buffer).2, IsPartOfOne [buffer] report)
      ∧ (t.feed buffer).1.HoldsHoldable := by
  cases buffer with
  | nil => exact ⟨List.forall_mem_nil _, hheld⟩
  | cons b tail =>
    -- the reports of the held octet come first, then those of the buffer
    obtain ⟨later, -, hlater, hnone, hskip⟩ := h.beginScan hm (b :: tail).length
    have hoctet : (Ahead.octet b).Fits (b :: tail ++ rest) := rfl
    have hunknown : Ahead.unknown.Fits rest := trivial
    have hstart : (t.release (.octet b)).skip ≤ (b :: tail).length := Nat.le_trans hskip (by simp)
    have hbefore := isPartOfOne_release hm h hoctet hheld
    obtain ⟨hparts, hholds⟩ := Scan.reportsParts_run hm hunknown hlater (within_scan hstart) hnone
      rfl
    refine ⟨?_, hholds⟩
    intro report hmem
    rcases List.mem_append.1 hmem with hmem | hmem
    · exact (hbefore report hmem).mono (List.forall_mem_nil _)
    · exact hparts.isPartOfOne (by simp) report hmem

theorem isPartOfOne_flush (hm : m.IsSteady) (h : t.Leads run total []) (hheld : t.HoldsHoldable) :
    ∀ report ∈ t.flush.2, IsPartOfOne [] report := by
  have hfits : Ahead.over.Fits [] := rfl
  have hbefore := isPartOfOne_release hm h hfits hheld
  unfold Tokenizer.flush
  dsimp only
  split
  · exact hbefore
  · -- the report that closes the last token has no octets, so it is a part of an empty buffer
    intro report hmem
    rcases List.mem_append.1 hmem with hmem | hmem
    · exact hbefore report hmem
    · rw [List.mem_singleton.1 hmem]
      exact ⟨[], by simp [ownBuffers], rfl, Nat.le_refl _, Nat.le_refl _, rfl⟩

theorem isPartOfOne_finish (hm : m.IsSteady) {buffers : List Bytes}
    (h : t.Leads run total buffers.flatten) (hheld : t.HoldsHoldable) :
    ∀ report ∈ (t.finish buffers).2, IsPartOfOne buffers report := by
  induction buffers generalizing t run total with
  | nil => exact isPartOfOne_flush hm h hheld
  | cons buffer buffers ih =>
    obtain ⟨more, -, hmore⟩ := h.feed hm
    obtain ⟨hfed, hholds⟩ := isPartOfOne_feed hm h hheld
    intro report hmem
    rw [finish_cons] at hmem
    rcases List.mem_append.1 hmem with hmem | hmem
    · exact (hfed report hmem).mono fun _ h => List.mem_singleton.1 h ▸ List.mem_cons_self
    · exact (ih hmore hholds report hmem).mono fun _ => List.mem_cons_of_mem _

end Tokenizer

/-- Every report of an input is a part of one of the buffers the input comes in, or of one of the
tokenizer's own. -/
theorem Machine.exists_isPart_of_mem_reports (hm : m.IsSteady) (buffers : List Bytes) :
    ∀ report ∈ m.reports buffers,
      ∃ buffer ∈ buffers ++ Tokenizer.ownBuffers, report.IsPart buffer :=
  Tokenizer.isPartOfOne_finish hm ⟨{}, Tokenizer.follows_fresh m, rfl⟩
    fun _ hheld => absurd hheld (by simp [Tokenizer.fresh])

/-- The octets of all events of an input are those of the input. -/
theorem Machine.source_events (hm : m.IsSteady) (buffers : List Bytes) :
    Event.source (m.events buffers) = buffers.flatten := by
  rw [← Event.merged_source, m.merged_events hm,
    Reading.source_events hm (Reading.isSound_of_run_eq_nil rfl rfl)]
  rfl

end MarkupFeed
