import MarkupFeed.Proofs.Format.MailLines
import MarkupFeed.Proofs.Mailbox.Messages

/-!
# Mailboxes one behind the other

Where an input ends with its last line, what is read so far does not depend on what follows
(`Mail.eventsFrom_append`). What follows is read in some mode and into some draft; but the line
between two messages is the same in every mode (`Mail.exists_eventsFrom_break`), and it closes
whatever draft there is just as the end of the input does and leaves one in which nothing is left of
it (`Draft.gather_break`). So a mailbox that begins with such a line is read behind another one as
it is read by itself: `Mailbox.posts_append`.
-/

namespace MarkupFeed

namespace Mail

/-- An input whose lines are complete is read by itself. What follows it is read from the start of
a line, unless it begins with the second half of a CR LF. -/
theorem eventsFrom_append {a b : Bytes} (ha : a.EndsLines) (hb : b.head? ≠ some Octet.lineFeed)
    (mode : Mode) : ∃ next, eventsFrom mode (a ++ b) = eventsFrom mode a ++ eventsFrom next b :=
  ⟨modeAfter mode a, eventsFrom_append_of_endsLines ha (fun _ => hb) mode⟩

/-- An input that begins with a line between two messages is read alike in both modes, and the first
of its events is that line. -/
theorem exists_eventsFrom_break {input : Bytes} (h : breakPrefix <+: input) :
    ∃ line rest, ∀ mode, eventsFrom mode input = .token .messageBreak line false :: rest := by
  rcases Reading.exists_lineEnd input with hline | ⟨text, ending, rest, rfl, htext, hend⟩
  · refine ⟨input, [], fun mode => ?_⟩
    rw [eventsFrom_lastLine mode hline, lineTokens_break mode h]
  · have hpart : Bytes.IsLine breakPrefix := by decide
    have hstart : breakPrefix <+: text := Reading.isPrefix_line hpart hend.1 h
    refine ⟨text, .newline ending :: eventsFrom .headers rest, fun mode => ?_⟩
    rw [eventsFrom_lineEnd mode htext hend, lineTokens_break mode hstart,
      lineMode_break mode (List.isPrefixOf_iff_prefix.mpr hstart)]
    rfl

end Mail

/-- The line between two messages closes the draft, and nothing is left of it in the next one. -/
theorem Draft.gather_break (draft : Draft) (line : Bytes) (rest : List (Event Mail.Kind)) :
    draft.gather (.token .messageBreak line false :: rest)
      = draft.endMessage.2 ++ ({ hasToken := true } : Draft).gather rest := by
  have hobserve : draft.observe (.token .messageBreak line false)
      = ({ hasToken := true }, draft.endMessage.2) :=
    endMessage_token draft
  rw [gather_cons, hobserve]

namespace Mailbox

theorem posts_eq_gather (input : Bytes) :
    posts input = ({} : Draft).gather (Mail.eventsFrom .headers input) := by
  rw [posts, posts_readAll, List.flatten_singleton]

/-- A mailbox that begins with a line between two messages, behind one whose lines are complete,
gives the posts each of them gives by itself. -/
theorem posts_append {a b : Bytes} (ha : a.EndsLines) (hb : Mail.breakPrefix <+: b) :
    posts (a ++ b) = posts a ++ posts b := by
  have hhead : b.head? ≠ some Octet.lineFeed := by
    obtain ⟨more, rfl⟩ := hb
    exact fun h => absurd (Option.some.inj h) (by decide)
  obtain ⟨next, happend⟩ := Mail.eventsFrom_append ha hhead .headers
  obtain ⟨line, rest, hbreak⟩ := Mail.exists_eventsFrom_break hb
  -- a fresh draft has no message to close
  have hfresh : ({} : Draft).endMessage.2 = [] := rfl
  rw [posts_eq_gather, posts_eq_gather, posts_eq_gather, happend, hbreak, hbreak,
    Draft.gather_append, Draft.gather_break, Draft.gather_break, hfresh, List.nil_append,
    ← List.append_assoc]
  rfl

/-- Behind a message that ends in its headers with a CR. -/
theorem posts_append_headers :
    let a := Bytes.ascii "From a\nno colon\nSubject: t\r"
    let b := Bytes.ascii "From b\r\nSubject: u\n\nx"
    a.EndsLines ∧ Mail.breakPrefix <+: b
      ∧ posts (a ++ b) = posts a ++ posts b ∧ (posts a).length = 1 ∧ (posts b).length = 1 := by
  have ha : (Bytes.ascii "From a\nno colon\nSubject: t\r").EndsLines := by
    intro b hb
    exact .inr (Option.some.inj hb).symm
  have hb : Mail.breakPrefix <+: Bytes.ascii "From b\r\nSubject: u\n\nx" := by decide
  refine ⟨ha, hb, posts_append ha hb, ?_, ?_⟩ <;> decide +kernel

end Mailbox

end MarkupFeed
