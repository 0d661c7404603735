import Mathlib.Data.List.Infix
import MarkupFeed.DiagnosticTable
import MarkupFeed.Proofs.Format.Diagnostics
import MarkupFeed.Proofs.Format.Steady
import MarkupFeed.Proofs.Tokenizer.Chunking

/-!
# A table of diagnostics, row by row

The table of a log is what its lines come to, one after the other.

`Diagnostic.ofLine?` reads the row of a line, and `Diagnostic.addLine` adds a line to the rows
before it. The tokens of a line do the same to a table (`close_observeAll_lineTokens`), so that the
table of a log is the fold over its lines, however the log is cut into buffers
(`rows_ofBuffers`).
-/

namespace MarkupFeed

/-! ### Lines -/

namespace Diagnostic

/-- The number digits stand for, if 32 bits hold it. -/
def number (digits : Bytes) : Option UInt32 := Text.word32? (Utf8.decodeLossy digits)

/-- The numbers at the front of a text, at most so many, and what is behind the colon of the last
one. Nothing if there is anything but a colon behind a number. -/
def numbers? : Nat → Bytes → Option (List (Option UInt32) × Bytes)
  | 0, text => some ([], text)
  | count + 1, text =>
    let digits := text.takeWhile Octet.isDigit
    if digits.isEmpty then some ([], text)
    else
      match text.dropWhile Octet.isDigit with
      | [] => some ([number digits], [])
      | b :: rest =>
        if b = ':'.toUInt8 then
          (numbers? count rest).map fun found => (number digits :: found.1, found.2)
        else none

/-- The row of a line: the name of a file up to the first colon that is not in front of it, line and
column as far as they are there, and the rest as the message. -/
def ofLine? : Bytes → Option Diagnostic
  | [] => none
  | b :: text =>
    match text.dropWhile Diagnostics.isNameOctet with
    | [] => none
    | _ :: rest =>
      (numbers? 2 rest).map fun found =>
        { file := Utf8.decodeLossy (b :: text.takeWhile Diagnostics.isNameOctet)
          line := found.1[0]?.join
          column := found.1[1]?.join
          message := Text.trim (Utf8.decodeLossy found.2) }

/-- The rows with a line added: one that starts with a blank goes on with the latest row, if there
is one. -/
def addLine (rows : List Diagnostic) (line : Bytes) : List Diagnostic :=
  if line.head?.any Octet.isSpaceOrTab then
    match rows.getLast? with
    | some row => rows.dropLast ++ [row.append (Text.trim (Utf8.decodeLossy line))]
    | none => []
  else rows ++ (ofLine? line).toList

/-- A row with numbers filled in, of which the first one comes after so many others. -/
def withNumbers (row : Diagnostic) : Nat → List (Option UInt32) → Diagnostic
  | _, [] => row
  | count, number :: rest =>
    (DiagnosticTable.withNumber row count number).withNumbers (count + 1) rest

theorem length_numbers?_le {count : Nat} {text : Bytes} {found : List (Option UInt32) × Bytes}
    (h : numbers? count text = some found) : found.1.length ≤ count := by
  induction count generalizing text found with
  | zero =>
    obtain rfl : ([], text) = found := Option.some.inj h
    exact Nat.le_refl 0
  | succ count ih =>
    rw [numbers?] at h
    split at h
    · obtain rfl : ([], text) = found := Option.some.inj h
      exact Nat.zero_le _
    · split at h
      · obtain rfl := Option.some.inj h
        exact Nat.succ_le_succ (Nat.zero_le count)
      · split at h
        · obtain ⟨more, hmore, rfl⟩ := Option.map_eq_some_iff.mp h
          exact Nat.succ_le_succ (ih hmore)
        · exact absurd h (by simp)

/-- Two numbers are line and column. -/
theorem withNumbers_eq (file : String) {numbers : List (Option UInt32)}
    (h : numbers.length ≤ 2) :
    withNumbers { file } 0 numbers
      = { file, line := numbers[0]?.join, column := numbers[1]?.join } := by
  match numbers, h with
  | [], _ => rfl
  | [line], _ => cases line <;> rfl
  | [line, column], _ => cases line <;> cases column <;> rfl

end Diagnostic

namespace DiagnosticTable

open Diagnostic (addLine numbers?)

theorem observeAll_append (table : DiagnosticTable) (events more : List (Event Diagnostics.Kind)) :
    table.observeAll (events ++ more) = (table.observeAll events).observeAll more :=
  List.foldl_append

/-! ### Merging -/

/-- The table after the pieces of a token that goes on. -/
def afterRun (table : DiagnosticTable) : Option (Diagnostics.Kind × Bytes) → DiagnosticTable
  | none => table
  | some (_, text) => { table with pending := table.pending ++ text }

/-- The pieces of a token come to what the whole token does. -/
theorem observeAll_mergedAfter (table : DiagnosticTable) (run : Option (Diagnostics.Kind × Bytes))
    (events : List (Event Diagnostics.Kind)) :
    (table.afterRun run).observeAll events
      = table.observeAll (Event.mergedAfter run events) := by
  fun_induction Event.mergedAfter run events generalizing table with
  | case1 run => cases run <;> rfl
  | case2 run kind piece rest whole ih =>
    have hpiece : (table.afterRun run).observe (.token kind piece true)
        = table.afterRun (some (kind, whole)) := by
      cases run <;> simp [observe, afterRun, whole]
    rw [observeAll, List.foldl_cons, hpiece]
    exact ih table
  | case3 run kind piece fragment rest whole hfragment ih =>
    have hpiece : (table.afterRun run).observe (.token kind piece false)
        = table.observe (.token kind whole false) := by
      cases run <;> simp [observe, afterRun, whole]
    rw [eq_false_of_ne_true hfragment, observeAll, List.foldl_cons, hpiece]
    exact ih _
  | case4 run text rest ih =>
    -- a run that a line end cuts off stays in the table
    have hcut : table.observeAll (Event.interrupted run) = table.afterRun run := by
      cases run <;> rfl
    rw [observeAll_append, hcut]
    exact ih _

/-! ### One line -/

/-- A table with rows, between two lines. -/
def ofRows (rows : List Diagnostic) : DiagnosticTable := { closed := rows.reverse }

/-- A message goes into the row of its line. -/
theorem observeAll_messageTokens (closed : List Diagnostic) {row : Diagnostic}
    (hrow : row.message = "") (numbers : Nat) (text : Bytes) :
    observeAll ⟨closed, some row, numbers, []⟩ (Diagnostics.messageTokens text)
      = ⟨closed, some { row with message := Text.trim (Utf8.decodeLossy text) }, numbers, []⟩ := by
  obtain ⟨file, line, column, message⟩ := row
  obtain rfl : message = "" := hrow
  cases text <;> rfl

/-- Numbers and message go into the row of their line, unless there is an error. How many numbers
there were is forgotten at the end of the line. -/
theorem observeAll_fieldTokens (closed : List Diagnostic) {row : Diagnostic}
    (hrow : row.message = "") (numbers count : Nat) (text : Bytes) :
    ∃ numbers' : Nat,
      observeAll ⟨closed, some row, numbers, []⟩ (Diagnostics.fieldTokens count text)
        = ⟨closed, (numbers? count text).map fun found =>
            { row.withNumbers numbers found.1 with
              message := Text.trim (Utf8.decodeLossy found.2) }, numbers', []⟩ := by
  induction count generalizing row numbers text with
  | zero => exact ⟨numbers, observeAll_messageTokens closed hrow numbers text⟩
  | succ count ih =>
    rw [Diagnostics.fieldTokens, numbers?]
    by_cases hempty : (text.takeWhile Octet.isDigit).isEmpty = true
    · rw [if_pos hempty, if_pos hempty]
      exact ⟨numbers, observeAll_messageTokens closed hrow numbers text⟩
    rw [if_neg hempty, if_neg hempty]
    have hnext : (withNumber row numbers
        (Diagnostic.number (text.takeWhile Octet.isDigit))).message = "" := by
      rw [withNumber]
      split <;> exact hrow
    cases text.dropWhile Octet.isDigit with
    | nil => exact ⟨numbers + 1, observeAll_messageTokens closed hnext (numbers + 1) []⟩
    | cons b rest =>
      by_cases hcolon : b = ':'.toUInt8
      · obtain ⟨numbers', hrest⟩ := ih hnext (numbers + 1) rest
        refine ⟨numbers', ?_⟩
        simp only [if_pos hcolon]
        refine Eq.trans hrest ?_
        rw [Option.map_map]
        rfl
      · simp only [if_neg hcolon]
        exact ⟨numbers, rfl⟩

/-- A line does to a table what it does to the rows. -/
theorem close_observeAll_lineTokens (rows : List Diagnostic) (line : Bytes) :
    (observeAll (ofRows rows) (Diagnostics.lineTokens line)).close
      = ofRows (addLine rows line) := by
  cases line with
  | nil => exact congrArg ofRows (List.append_nil rows).symm
  | cons b text =>
    rw [Diagnostics.lineTokens, addLine]
    by_cases hblank : Octet.isSpaceOrTab b = true
    · -- there is no row of this line, and the latest one is at the head of the closed ones
      rw [if_pos hblank, List.head?_cons, Option.any_some, if_pos hblank]
      rcases List.eq_nil_or_concat rows with rfl | ⟨before, row, rfl⟩
      · rfl
      · rw [List.concat_eq_append, List.getLast?_concat, List.dropLast_concat, ofRows, ofRows,
          List.reverse_concat, List.reverse_concat]
        rfl
    · rw [if_neg hblank, List.head?_cons, Option.any_some, if_neg hblank, Diagnostic.ofLine?]
      cases text.dropWhile Diagnostics.isNameOctet with
      | nil => exact congrArg ofRows (List.append_nil rows).symm
      | cons colon rest =>
        obtain ⟨numbers, hrow⟩ := @observeAll_fieldTokens rows.reverse
          { file := Utf8.decodeLossy (b :: text.takeWhile Diagnostics.isNameOctet) } rfl 0 2 rest
        refine (congrArg close hrow).trans ?_
        dsimp only
        cases hfound : numbers? 2 rest with
        | none => exact congrArg ofRows (List.append_nil rows).symm
        | some found =>
          rw [Option.map_some, Option.map_some, Option.toList_some, ofRows, List.reverse_concat,
            Diagnostic.withNumbers_eq _ (Diagnostic.length_numbers?_le hfound)]
          rfl

/-! ### Logs -/

/-- No backslash stands in front of a line end. -/
def JoinsNothing (log : Bytes) : Prop :=
  ¬[Octet.backslash, Octet.lineFeed] <:+: log ∧ ¬[Octet.backslash, Octet.carriageReturn] <:+: log

instance (log : Bytes) : Decidable (JoinsNothing log) := by
  unfold JoinsNothing; infer_instance

theorem JoinsNothing.of_isInfix {part log : Bytes} (h : JoinsNothing log) (hpart : part <:+: log) :
    JoinsNothing part :=
  ⟨fun hlf => h.1 (hlf.trans hpart), fun hcr => h.2 (hcr.trans hpart)⟩

/-- So no line of it ends with a backslash. -/
theorem JoinsNothing.getLast?_ne {text ending rest : Bytes} (hending : ending ∈ Bytes.lineEnds)
    (h : JoinsNothing (text ++ (ending ++ rest))) : text.getLast? ≠ some Octet.backslash := by
  intro hlast
  obtain ⟨before, rfl⟩ := List.getLast?_eq_some_iff.mp hlast
  rw [List.append_assoc] at h
  simp only [Bytes.lineEnds, List.mem_cons, List.not_mem_nil, or_false] at hending
  rcases hending with rfl | rfl | rfl
  · exact h.1 ⟨before, rest, by simp⟩
  · exact h.2 ⟨before, rest, by simp⟩
  · exact h.2 ⟨before, Octet.lineFeed :: rest, by simp⟩

/-- Lines are added to the rows one after the other. -/
theorem close_observeAll_eventsFrom (rows : List Diagnostic) {log : Bytes}
    (h : JoinsNothing log) :
    (observeAll (ofRows rows) (Diagnostics.eventsFrom log)).close
      = ofRows (log.lines.foldl addLine rows) := by
  induction log using Bytes.line_induction generalizing rows with
  | last text htext =>
    rw [Diagnostics.eventsFrom_lastLine htext, close_observeAll_lineTokens,
      Bytes.lines_lastLine htext]
    cases text with
    | nil => exact congrArg ofRows (List.append_nil rows)
    | cons b text => rfl
  | line text ending rest htext hend ih =>
    have hrest : rest <:+: text ++ (ending ++ rest) := ⟨text ++ ending, [], by simp⟩
    rw [Diagnostics.eventsFrom_line htext (h.getLast?_ne hend.1) hend, observeAll_append,
      Bytes.lines_lineEnd htext hend, List.foldl_cons]
    refine Eq.trans ?_ (ih _ (h.of_isInfix hrest))
    -- the line end closes the row of the line
    rw [← close_observeAll_lineTokens]
    rfl

/-- The rows of a log are what its lines come to, however it is cut into buffers. -/
theorem rows_ofBuffers {parts : List Bytes} (h : JoinsNothing parts.flatten) :
    (ofBuffers parts).rows
      = ((Bytes.lines parts.flatten).filter (!·.isEmpty)).foldl addLine [] := by
  have hm : Diagnostics.machine.IsSteady :=
    Format.isSteady_machine Format.defaultStyle .diagnostics
  have hmerged : Event.merged (Diagnostics.machine.events parts)
      = Diagnostics.eventsFrom parts.flatten := Machine.merged_events hm parts
  have htable : ofBuffers parts
      = (observeAll (ofRows []) (Diagnostics.eventsFrom parts.flatten)).close := by
    rw [← hmerged]
    exact congrArg close (observeAll_mergedAfter {} none _)
  -- an empty line adds nothing
  have hempty (rows : List Diagnostic) (line : Bytes) :
      (if (!line.isEmpty) = true then addLine rows line else rows) = addLine rows line := by
    cases line with
    | nil => exact (List.append_nil rows).symm
    | cons b text => rfl
  rw [htable, close_observeAll_eventsFrom [] h, List.foldl_filter]
  simp only [hempty]
  exact List.reverse_reverse _

/-- A log with all kinds of lines, cut inside a number, a line end and a message. -/
theorem rows_ofBuffers_log :
    let parts := ["src/a.c:1", "2:5: warning\r", "\n\n\tmo", "re\nnoise\nmake: *** \\ \rx:1y: z\n",
      "::4294967296:7"].map Bytes.ascii
    JoinsNothing parts.flatten
      ∧ (ofBuffers parts).rows
        = [{ file := "src/a.c", line := some 12, column := some 5, message := "warning more" },
           { file := "make", message := "*** \\" },
           { file := ":", line := none, column := some 7 }] := by
  intro parts
  have h : JoinsNothing parts.flatten := by decide +kernel
  exact ⟨h, (rows_ofBuffers h).trans (by decide +kernel)⟩

end DiagnosticTable

end MarkupFeed
