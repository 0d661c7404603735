import MarkupFeed.Mailbox
import MarkupFeed.Proofs.Format.Mail
import MarkupFeed.Proofs.Format.Steady
import MarkupFeed.Proofs.Tokenizer.Chunking

/-!
# A mailbox is read line by line, whatever parts it comes in

The draft of a message takes the events of a tokenizer, but it could as well take the merged ones
(`observeAll_mergedAfter`). So the posts of an input are those its lines give (`posts_readAll`), and
`gather_lineEnd` reads one line after the other.
-/

namespace MarkupFeed

namespace Draft

/-- The posts events give, those of the last message included. -/
def gather (draft : Draft) (events : List (Event Mail.Kind)) : List Post :=
  (draft.observeAll events).2 ++ (draft.observeAll events).1.endMessage.2

theorem observeAll_cons (draft : Draft) (event : Event Mail.Kind)
    (rest : List (Event Mail.Kind)) :
    draft.observeAll (event :: rest)
      = (((draft.observe event).1.observeAll rest).1,
          (draft.observe event).2 ++ ((draft.observe event).1.observeAll rest).2) :=
  rfl

theorem observeAll_append (draft : Draft) (events more : List (Event Mail.Kind)) :
    draft.observeAll (events ++ more)
      = (((draft.observeAll events).1.observeAll more).1,
          (draft.observeAll events).2 ++ ((draft.observeAll events).1.observeAll more).2) := by
  induction events generalizing draft with
  | nil => rfl
  | cons event rest ih =>
    rw [List.cons_append, observeAll_cons, observeAll_cons, ih, List.append_assoc]

/-! ### Merging -/

/-- The draft after the pieces of a token that goes on. -/
def afterRun (draft : Draft) : Option (Mail.Kind × Bytes) → Draft
  | none => draft
  | some (_, text) => { draft with piece := draft.piece ++ text, hasToken := true }

theorem observe_fragment (draft : Draft) (run : Option (Mail.Kind × Bytes)) (kind : Mail.Kind)
    (text : Bytes) :
    (draft.afterRun run).observe (.token kind text true)
      = (draft.afterRun (some (kind, run.elim [] Prod.snd ++ text)), []) := by
  cases run <;> simp [observe, afterRun]

theorem observe_whole (draft : Draft) (run : Option (Mail.Kind × Bytes)) (kind : Mail.Kind)
    (text : Bytes) :
    (draft.afterRun run).observe (.token kind text false)
      = draft.observe (.token kind (run.elim [] Prod.snd ++ text) false) := by
  cases run <;> simp [observe, afterRun]

/-- The pieces of a token come to what the whole token does. -/
theorem observeAll_mergedAfter (draft : Draft) (run : Option (Mail.Kind × Bytes))
    (events : List (Event Mail.Kind)) :
    (draft.afterRun run).observeAll events = draft.observeAll (Event.mergedAfter run events) := by
  fun_induction Event.mergedAfter run events generalizing draft with
  | case1 run => cases run <;> rfl
  | case2 run kind piece rest whole ih =>
    rw [observeAll_cons, observe_fragment, ih]
    rfl
  | case3 run kind piece fragment rest whole hfragment ih =>
    rw [eq_false_of_ne_true hfragment, observeAll_cons, observeAll_cons, observe_whole]
    exact congrArg (fun r => (r.1, _ ++ r.2)) (ih _)
  | case4 run text rest ih =>
    -- a run that a line end cuts off stays in the draft
    have hcut : draft.observeAll (Event.interrupted run) = (draft.afterRun run, []) := by
      cases run <;> rfl
    rw [observeAll_append, hcut, observeAll_cons, observeAll_cons]
    exact congrArg (fun r => (r.1, _ ++ r.2)) (ih _)

theorem gather_merged (draft : Draft) (events : List (Event Mail.Kind)) :
    draft.gather (Event.merged events) = draft.gather events := by
  have hmerged := observeAll_mergedAfter draft none events
  rw [gather, gather, Event.merged, ← hmerged]
  rfl

theorem gather_append (draft : Draft) (events more : List (Event Mail.Kind)) :
    draft.gather (events ++ more)
      = (draft.observeAll events).2 ++ (draft.observeAll events).1.gather more := by
  rw [gather, gather, observeAll_append, List.append_assoc]

theorem gather_cons (draft : Draft) (event : Event Mail.Kind) (rest : List (Event Mail.Kind)) :
    draft.gather (event :: rest)
      = (draft.observe event).2 ++ (draft.observe event).1.gather rest := by
  rw [gather, gather, observeAll_cons, List.append_assoc]

/-! ### Lines -/

/-- Takes a line that starts in a mode, and its end. -/
def takeLine (draft : Draft) (mode : Mail.Mode) (text : Bytes) : Draft × List Post :=
  draft.observeAll (Mail.lineTokens mode text ++ [.newline [Octet.lineFeed]])

/-- What a line ends with does not matter. -/
theorem takeLine_eq (draft : Draft) (mode : Mail.Mode) (text ending : Bytes) :
    draft.takeLine mode text
      = draft.observeAll (Mail.lineTokens mode text ++ [.newline ending]) := by
  rw [takeLine, observeAll_append, observeAll_append]
  rfl

/-- One line after the other is taken, whatever the lines end with. -/
theorem gather_lineEnd (draft : Draft) (mode : Mail.Mode) {text : Bytes} (htext : text.IsLine)
    {ending rest : Bytes} (hend : Reading.EndsLine ending rest) :
    draft.gather (Mail.eventsFrom mode (text ++ (ending ++ rest)))
      = (draft.takeLine mode text).2
        ++ (draft.takeLine mode text).1.gather
            (Mail.eventsFrom (Mail.lineMode mode text) rest) := by
  rw [Mail.eventsFrom_lineEnd mode htext hend, List.append_cons, takeLine_eq draft mode text ending]
  exact gather_append _ _ _

theorem gather_line (draft : Draft) (mode : Mail.Mode) {text : Bytes} (htext : text.IsLine)
    (rest : Bytes) :
    draft.gather (Mail.eventsFrom mode (text ++ Octet.lineFeed :: rest))
      = (draft.takeLine mode text).2
        ++ (draft.takeLine mode text).1.gather
            (Mail.eventsFrom (Mail.lineMode mode text) rest) :=
  draft.gather_lineEnd mode htext (Reading.endsLine_lineFeed rest)

end Draft

/-! ### Mailboxes -/

namespace Mailbox

theorem readAll_eq_gather (mailbox : Mailbox) (parts : List Bytes) :
    (mailbox.readAll parts).2
      = mailbox.draft.gather (Report.events (mailbox.tokenizer.finish parts).2) := by
  induction parts generalizing mailbox with
  | nil => rfl
  | cons part parts ih =>
    -- the draft takes the reports of a part before the next part is read
    rw [Tokenizer.finish_cons]
    refine (congrArg (_ ++ ·) (ih _)).trans ?_
    exact (Draft.gather_append _ _ _).symm.trans
      (congrArg mailbox.draft.gather (Report.events_append _ _).symm)

/-- The posts of an input depend on its octets only, and are those its lines give. -/
theorem posts_readAll (parts : List Bytes) :
    (({} : Mailbox).readAll parts).2
      = ({} : Draft).gather (Mail.eventsFrom .headers parts.flatten) := by
  have hmerged : Event.merged (Mail.machine.events parts)
      = Mail.eventsFrom .headers parts.flatten :=
    Machine.merged_events Mail.isSteady_machine parts
  rw [readAll_eq_gather, ← hmerged]
  exact (Draft.gather_merged _ _).symm

end Mailbox

end MarkupFeed
