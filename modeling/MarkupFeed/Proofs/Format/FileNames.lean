import Mathlib.Data.List.DropRight
import MarkupFeed.Proofs.Format.Steady
import MarkupFeed.Proofs.Tokenizer.Spelling

/-!
# Which words of a text are file names

A word is a file name by what stands at its end: something without separators, behind a run of one
separator of the right length (`Prose.IsName`). That holds of a word and one octet more by what was
at the end of the word before (`Prose.isName_concat`), and so does how many dots or slashes stand
there, counted modulo three and two. What a step can do to a state (`State.Follows`) is the same
recursion on seven states, so that the state is known from the octets of the token and they from it
(`State.Describes`, `State.describes_of_stateAfter?`). No octet completes a token; one that is left
to the next token finds the state as it is behind the last octet (`Prose.exists_state_of_ends`).
The main result is `Prose.kind_of_token`.
-/

namespace MarkupFeed

/-! ### The octets at the end of a text -/

namespace Bytes

/-- How often an octet stands at the end of a text in a row. -/
def trailing (b : UInt8) (text : Bytes) : Nat := (text.rtakeWhile (· == b)).length

@[simp] theorem trailing_nil (b : UInt8) : trailing b [] = 0 := by simp [trailing]

theorem trailing_concat (b c : UInt8) (text : Bytes) :
    trailing b (text ++ [c]) = if c = b then trailing b text + 1 else 0 := by
  rw [trailing, List.rtakeWhile_concat]
  by_cases hc : c = b
  · simp [hc, trailing]
  · simp [hc]

/-- Counted modulo a number, the octets at the end go up by one, unless they begin again. -/
theorem trailing_concat_mod {b c : UInt8} {text : Bytes} {n r : Nat} (hr : r + 1 < n) :
    trailing b (text ++ [c]) % n = r + 1 ↔ c = b ∧ trailing b text % n = r := by
  rw [trailing_concat]
  split
  · next hc =>
    have hlt : trailing b text % n < n := Nat.mod_lt _ (by omega)
    rw [Nat.add_mod_eq_ite, Nat.mod_eq_of_lt (show 1 < n by omega), and_iff_right hc]
    split <;> omega
  · next hc => simp [hc]

theorem trailing_eq_zero_iff {b : UInt8} {text : Bytes} :
    trailing b text = 0 ↔ text.getLast? ≠ some b := by
  rcases List.eq_nil_or_concat text with rfl | ⟨front, c, rfl⟩
  · simp
  · rw [List.concat_eq_append, trailing_concat, List.getLast?_concat]
    by_cases hc : c = b <;> simp [hc]

/-- As many octets as are counted end the text, and no more. -/
theorem trailing_eq_iff {b : UInt8} {text : Bytes} {k : Nat} :
    trailing b text = k
      ↔ ∃ front : Bytes, text = front ++ List.replicate k b ∧ front.getLast? ≠ some b := by
  induction k generalizing text with
  | zero => simp [trailing_eq_zero_iff]
  | succ k ih =>
    rcases List.eq_nil_or_concat text with rfl | ⟨init, c, rfl⟩
    · simp
    · rw [List.concat_eq_append, trailing_concat, List.replicate_succ']
      constructor
      · intro h
        obtain rfl : c = b := by
          by_contra hc
          simp [hc] at h
        rw [if_pos rfl, Nat.add_right_cancel_iff, ih] at h
        obtain ⟨front, rfl, hfront⟩ := h
        exact ⟨front, by rw [List.append_assoc], hfront⟩
      · rintro ⟨front, heq, hfront⟩
        rw [← List.append_assoc] at heq
        obtain ⟨rfl, hlast⟩ := List.append_inj' heq rfl
        obtain rfl := List.singleton_inj.mp hlast
        rw [if_pos rfl, ih.mpr ⟨front, rfl, hfront⟩]

end Bytes

namespace Prose

/-! ### Names -/

/-- Whether the octet separates the parts of a path. -/
def isSeparator (b : UInt8) : Bool := Octet.among ['.', '/'] b

theorem isSeparator_iff {b : UInt8} :
    isSeparator b = true ↔ b = '.'.toUInt8 ∨ b = '/'.toUInt8 := by
  simp only [isSeparator, Octet.among, List.any_cons, List.any_nil, Bool.or_false, Bool.or_eq_true,
    beq_iff_eq]
  exact or_congr eq_comm eq_comm

theorem isSpaceOrTab_of_isSeparator {b : UInt8} (h : isSeparator b = true) :
    Octet.isSpaceOrTab b = false := by
  rcases isSeparator_iff.mp h with rfl | rfl <;> decide

/-- Whether so many of a separator in a row open a name: one dot and every third one behind it, or
an odd number of slashes. -/
def Opens (s : UInt8) (k : Nat) : Prop :=
  s = '.'.toUInt8 ∧ k % 3 = 1 ∨ s = '/'.toUInt8 ∧ k % 2 = 1

/-- A file name goes on, without separators, behind the last run of a separator in it, and that run
opens a name. -/
def IsName (word : Bytes) : Prop :=
  ∃ (front : Bytes) (s : UInt8) (k : Nat) (tail : Bytes),
    word = front ++ (List.replicate k s ++ tail) ∧ Opens s k ∧ front.getLast? ≠ some s
      ∧ tail ≠ [] ∧ ∀ b ∈ tail, isSeparator b = false

/-- The separators at the end of the word open a name: any octet but a separator makes it one. -/
def OpensName (word : Bytes) : Prop := ∃ s, Opens s (Bytes.trailing s word)

theorem opensName_iff {word : Bytes} :
    OpensName word ↔ Bytes.trailing '.'.toUInt8 word % 3 = 1
      ∨ Bytes.trailing '/'.toUInt8 word % 2 = 1 := by
  constructor
  · rintro ⟨s, ⟨rfl, hk⟩ | ⟨rfl, hk⟩⟩
    · exact .inl hk
    · exact .inr hk
  · rintro (hk | hk)
    · exact ⟨_, .inl ⟨rfl, hk⟩⟩
    · exact ⟨_, .inr ⟨rfl, hk⟩⟩

theorem not_isName_nil : ¬IsName [] := by
  rintro ⟨front, s, k, tail, heq, -, -, htail, -⟩
  exact htail (List.append_eq_nil_iff.mp (List.append_eq_nil_iff.mp heq.symm).2).2

/-- Up to any place behind the run, a name is one, or is open. -/
theorem isName_or_opensName {front tail : Bytes} {s : UInt8} {k : Nat} (hopens : Opens s k)
    (hfront : front.getLast? ≠ some s) (hplain : ∀ b ∈ tail, isSeparator b = false) :
    IsName (front ++ (List.replicate k s ++ tail))
      ∨ OpensName (front ++ (List.replicate k s ++ tail)) := by
  by_cases hnil : tail = []
  · have hk : Bytes.trailing s (front ++ List.replicate k s) = k :=
      Bytes.trailing_eq_iff.mpr ⟨front, rfl, hfront⟩
    refine .inr ⟨s, ?_⟩
    rw [hnil, List.append_nil, hk]
    exact hopens
  · exact .inl ⟨front, s, k, tail, rfl, hopens, hfront, hnil, hplain⟩

/-- One octet more leaves a name or completes an open one, unless it is a separator. -/
theorem isName_concat {word : Bytes} {b : UInt8} :
    IsName (word ++ [b]) ↔ isSeparator b = false ∧ (IsName word ∨ OpensName word) := by
  constructor
  · rintro ⟨front, s, k, tail, heq, hopens, hfront, htail, hplain⟩
    obtain ⟨tail, c, rfl⟩ := (List.eq_nil_or_concat tail).resolve_left htail
    rw [List.concat_eq_append, List.forall_mem_append, List.forall_mem_singleton] at hplain
    rw [List.concat_eq_append, ← List.append_assoc, ← List.append_assoc] at heq
    obtain ⟨rfl, hlast⟩ := List.append_inj' heq rfl
    obtain rfl := List.singleton_inj.mp hlast
    rw [List.append_assoc]
    exact ⟨hplain.2, isName_or_opensName hopens hfront hplain.1⟩
  · rintro ⟨hb, ⟨front, s, k, tail, rfl, hopens, hfront, -, hplain⟩ | ⟨s, hopens⟩⟩
    · refine ⟨front, s, k, tail ++ [b], by simp, hopens, hfront, by simp, ?_⟩
      exact List.forall_mem_append.mpr ⟨hplain, List.forall_mem_singleton.mpr hb⟩
    · obtain ⟨front, hword, hfront⟩ := Bytes.trailing_eq_iff.mp (rfl : Bytes.trailing s word = _)
      refine ⟨front, s, _, [b], ?_, hopens, hfront, by simp, List.forall_mem_singleton.mpr hb⟩
      rw [← List.append_assoc, ← hword]

/-! ### States and words -/

namespace State

/-- The state behind an octet that goes on the token. -/
structure Follows (s : State) (b : UInt8) (next : State) : Prop where
  ne_idle : next ≠ .idle
  spaces_iff : next = .spaces ↔ (s = .idle ∨ s = .spaces) ∧ Octet.isSpaceOrTab b = true
  dot_iff : next = .dot ↔ b = '.'.toUInt8 ∧ s ≠ .dot ∧ s ≠ .dots
  dots_iff : next = .dots ↔ b = '.'.toUInt8 ∧ s = .dot
  slash_iff : next = .slash ↔ b = '/'.toUInt8 ∧ s ≠ .slash
  filename_iff : next = .filename
    ↔ isSeparator b = false ∧ (s = .filename ∨ s = .dot ∨ s = .slash)

theorem shifts_follows (s : State) (b : UInt8) : (s.step b).Shifts (s.Follows b) := by
  have hsep := @isSeparator_iff b
  have hblank := @isSpaceOrTab_of_isSeparator b
  have hne : '.'.toUInt8 ≠ '/'.toUInt8 := by decide
  cases s <;> grind [step, afterText, Step.Shifts, Follows]

/-- An octet goes on the token, or it is left to the next one and changes nothing. -/
theorem step_cases (s : State) (b : UInt8) :
    (∃ next, s.step b = .shift next) ∨ s ≠ .idle ∧ s.step b = .reject s := by
  cases s with
  | idle => exact .inl ⟨_, rfl⟩
  | _ =>
    rw [step]
    repeat' split
    all_goals simp

/-- What the state tells of the octets of the token so far. -/
structure Describes (s : State) (word : Bytes) : Prop where
  idle_iff : s = .idle ↔ word = []
  blank_iff : s = .idle ∨ s = .spaces ↔ ∀ b ∈ word, Octet.isSpaceOrTab b = true
  dot_iff : s = .dot ↔ Bytes.trailing '.'.toUInt8 word % 3 = 1
  dots_iff : s = .dots ↔ Bytes.trailing '.'.toUInt8 word % 3 = 2
  slash_iff : s = .slash ↔ Bytes.trailing '/'.toUInt8 word % 2 = 1
  filename_iff : s = .filename ↔ IsName word

namespace Describes

variable {s next : State} {b : UInt8} {word : Bytes}

theorem nil : Describes .idle [] where
  idle_iff := by simp
  blank_iff := by simp
  dot_iff := by simp
  dots_iff := by simp
  slash_iff := by simp
  filename_iff := by simp [not_isName_nil]

theorem opensName_iff (h : s.Describes word) : OpensName word ↔ s = .dot ∨ s = .slash := by
  rw [Prose.opensName_iff, h.dot_iff, h.slash_iff]

/-- One octet more, and the state behind it. -/
theorem concat (h : s.Describes word) (hnext : s.Follows b next) :
    next.Describes (word ++ [b]) where
  idle_iff := by simp [hnext.ne_idle]
  blank_iff := by
    have hidle := hnext.ne_idle
    rw [List.forall_mem_append, List.forall_mem_singleton, ← h.blank_iff, ← hnext.spaces_iff]
    simp [hidle]
  dot_iff := by
    rw [hnext.dot_iff, Bytes.trailing_concat_mod (by decide), Ne, Ne, h.dot_iff, h.dots_iff]
    exact and_congr_right fun _ => by omega
  dots_iff := by rw [hnext.dots_iff, Bytes.trailing_concat_mod (by decide), h.dot_iff]
  slash_iff := by
    rw [hnext.slash_iff, Bytes.trailing_concat_mod (by decide), Ne, h.slash_iff]
    exact and_congr_right fun _ => by omega
  filename_iff := by rw [hnext.filename_iff, isName_concat, ← h.filename_iff, h.opensName_iff]

end Describes

theorem describes_of_stateAfter? {s : State} {word : Bytes}
    (h : machine.stateAfter? .idle word = some s) : s.Describes word :=
  Machine.stateAfter?_tracked (m := machine) (p := fun word s => Describes s word)
    (fun _ s b hs => (shifts_follows s b).mono fun _ hnext => hs.concat hnext) [] h .nil

end State

/-! ### Tokens -/

theorem begins_iff {s : State} : machine.Begins s ↔ s = .idle := by
  constructor
  · rintro (_ | hidle | (hidle | hspans))
    · rfl
    · exact eq_of_beq hidle
    · exact eq_of_beq hidle
    · exact absurd hspans Bool.false_ne_true
  · rintro rfl
    exact .start

/-- A token is a word that leads to a state of its kind. It ends in front of an octet that this
state leaves to the next token, or at the end of the line or of the input. -/
theorem exists_state_of_ends {word rest : Bytes} {kind : machine.Kind}
    (h : machine.Ends State.idle word kind rest) :
    ∃ s : State, machine.stateAfter? .idle word = some s ∧ s ≠ .idle ∧ s.kind = kind
      ∧ ∀ b ∈ rest.head?,
        s.step b = .reject s ∨ b = Octet.lineFeed ∨ b = Octet.carriageReturn := by
  cases h with
  | @accept word rest b s next hword hstep =>
    rcases State.step_cases s b with ⟨_, hshift⟩ | ⟨_, hreject⟩
    · exact absurd (hshift.symm.trans hstep) (by simp)
    · exact absurd (hreject.symm.trans hstep) (by simp)
  | @reject _ rest b s next hword hbusy hstep =>
    rcases State.step_cases s b with ⟨_, hshift⟩ | ⟨hne, hreject⟩
    · exact absurd (hshift.symm.trans hstep) (by simp)
    · obtain rfl : s = next := Step.reject.inj (hreject.symm.trans hstep)
      refine ⟨s, hword, hne, rfl, ?_⟩
      intro c hc
      obtain rfl := Option.some.inj hc
      exact .inl hreject
  | @lineEnd _ rest s hword hbusy hrest =>
    refine ⟨s, hword, beq_eq_false_iff_ne.mp hbusy, rfl, ?_⟩
    intro c hc
    rcases hrest with rfl | hline
    · exact absurd hc (by simp)
    · rw [Reading.atLineEnd_iff, Option.mem_def.mp hc] at hline
      exact .inr (hline.imp Option.some.inj Option.some.inj)
  | @refuse rest b next hidle hstep =>
    rcases State.step_cases State.idle b with ⟨_, hshift⟩ | ⟨hne, _⟩
    · exact absurd (hshift.symm.trans hstep) (by simp)
    · exact absurd rfl hne

/-- The same of the tokens of an input. -/
theorem exists_state_of_token {buffers : List Bytes} {before after : List (Event Kind)}
    {kind : Kind} {text : Bytes}
    (h : Event.merged (machine.events buffers) = before ++ .token kind text false :: after) :
    ∃ s : State, machine.stateAfter? .idle text = some s ∧ s ≠ .idle ∧ s.kind = kind
      ∧ ∀ b ∈ (Event.source after).head?,
        s.step b = .reject s ∨ b = Octet.lineFeed ∨ b = Octet.carriageReturn := by
  obtain ⟨first, hfirst, hends⟩ :=
    Machine.exists_ends_of_isLine (Format.isSteady_machine Format.defaultStyle .prose) rfl h
  obtain rfl := begins_iff.mp hfirst
  exact exists_state_of_ends hends

/-- Whatever buffers an input comes in, the kind of a token of it is known from its octets: it is
white space if they all are, a file name if they are one, and otherwise text. -/
theorem kind_of_token {buffers : List Bytes} {before after : List (Event Kind)} {kind : Kind}
    {text : Bytes}
    (h : Event.merged (machine.events buffers) = before ++ .token kind text false :: after) :
    (kind = .space ↔ ∀ b ∈ text, Octet.isSpaceOrTab b = true)
      ∧ (kind = .filename ↔ IsName text)
      ∧ (kind = .text ↔ ¬(∀ b ∈ text, Octet.isSpaceOrTab b = true) ∧ ¬IsName text) := by
  obtain ⟨s, hword, hne, rfl, -⟩ := exists_state_of_token h
  have hs := State.describes_of_stateAfter? hword
  rw [← hs.blank_iff, ← hs.filename_iff]
  cases s <;> simp [State.kind] at hne ⊢

/-- A path with separators of both kinds, in two buffers. -/
theorem kind_of_token_path :
    let text := Bytes.ascii "../a//....b"
    Event.merged (machine.events [Bytes.ascii "see ../a//", Bytes.ascii "....b\n"])
        = [.token .text (Bytes.ascii "see") false, .token .space (Bytes.ascii " ") false]
          ++ .token .filename text false :: [.newline [Octet.lineFeed]]
      ∧ IsName text := by
  have h : Event.merged (machine.events [Bytes.ascii "see ../a//", Bytes.ascii "....b\n"])
      = [.token .text (Bytes.ascii "see") false, .token .space (Bytes.ascii " ") false]
        ++ .token .filename (Bytes.ascii "../a//....b") false
          :: [.newline [Octet.lineFeed]] := by decide
  exact ⟨h, (kind_of_token h).2.1.mp rfl⟩

end Prose

end MarkupFeed
