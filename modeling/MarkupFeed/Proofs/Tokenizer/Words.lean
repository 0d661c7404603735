import Mathlib.Computability.Language
import MarkupFeed.Proofs.Tokenizer.Chunking
import MarkupFeed.Proofs.Tokenizer.Lines

/-!
# Which words are a single token

`Machine.kindOf?` runs a machine over a word and tells the kind of the token that the word is, if it
is one. On a text without line ends this is what a reading makes of it
(`Machine.tokens_eq_singleton_iff`). A language for each state, of the words that complete a token
of a kind from there on, is right as soon as it is right of the empty word and of one octet
(`Machine.Recognizes`, `Recognizes.kindOf?_eq_some_iff`): the former is a fact about `finish`, the
latter one about `step`.
-/

namespace MarkupFeed

variable {m : Machine}

namespace Step

variable {σ : Type} {next : σ}

/-- Whether the octet is left to the next token. -/
def isReject : Step σ → Bool
  | .shift _ | .accept _ => false
  | .reject _ => true

@[simp] theorem isReject_shift : (Step.shift next).isReject = false := rfl

@[simp] theorem isReject_accept : (Step.accept next).isReject = false := rfl

@[simp] theorem isReject_reject : (Step.reject next).isReject = true := rfl

@[simp] theorem isReject_ite {c : Prop} [Decidable c] {first second : Step σ} :
    (if c then first else second).isReject = if c then first.isReject else second.isReject := by
  split <;> rfl

end Step

namespace Machine

/-- The kind of the token that a word is from a state on; `none` if it is not exactly one token. -/
def kindOf? (m : Machine) : m.State → Bytes → Option m.Kind
  | s, [] => some (m.finish s).1
  | s, b :: rest =>
    match m.step s b with
    | .shift next => m.kindOf? next rest
    | .accept next => if rest.isEmpty then some (m.finish next).1 else none
    | .reject _ => none

/-- Between tokens the machine takes every octet. -/
def TakesAll (m : Machine) : Prop := ∀ b, (m.step m.start b).isReject = false

end Machine

/-! ### Words and readings -/

namespace Reading

variable {r : Reading m} {b : UInt8} {rest : Bytes} {kind : m.Kind}

/-- Outside line continuations, an octet of a line is offered to the machine. -/
theorem events_of_isLine (hc : r.continuation = .none) (hline : Bytes.IsLine (b :: rest)) :
    r.events (b :: rest) = (r.offer b).1 ++ (r.offer b).2.events rest := by
  have hb : b ≠ Octet.lineFeed ∧ b ≠ Octet.carriageReturn := hline b List.mem_cons_self
  have hrest : Bytes.IsLine rest := fun c hmem => hline c (List.mem_cons_of_mem b hmem)
  rw [events_cons hc fun h => hb.2 h.1, advance_of_isLine r hb fun _ _ => atLineEnd_of_isLine hrest]

/-- A token that ends in the middle of a word is not the whole of it. -/
theorem ne_singleton_of_reject {next : m.State} (hbusy : m.isIdle r.state = false)
    (hstep : m.step r.state b = .reject next) (later : List (Event m.Kind)) :
    (r.offer b).1 ++ later ≠ [.token kind (r.run ++ b :: rest) false] := by
  intro h
  simp only [offer, hbusy, hstep, List.cons_append] at h
  have htext : r.run = r.run ++ b :: rest := by simpa using (List.cons.inj h).1
  exact absurd htext (by simp)

/-- A token that an octet completes is the whole of a word if nothing follows. -/
theorem singleton_iff_of_accept {next : m.State} (hstep : m.step r.state b = .accept next) :
    (r.take b).1 ++ (r.take b).2.events rest = [.token kind (r.run ++ b :: rest) false]
      ↔ rest = [] ∧ (m.finish next).1 = kind := by
  simp only [take, hstep]
  constructor
  · intro h
    obtain ⟨hevent, -⟩ := List.cons.inj h
    obtain ⟨hkind, hrest⟩ : (m.finish next).1 = kind ∧ [] = rest := by simpa using hevent
    exact ⟨hrest.symm, hkind⟩
  · rintro ⟨rfl, rfl⟩
    simp [events, ending, m.isIdle_finish]

/-- Inside a token, the rest of a line is the rest of the token if the machine says so. -/
theorem events_eq_singleton_iff (hm : m.IsSteady) (hbusy : m.isIdle r.state = false)
    (hc : r.continuation = .none) {text : Bytes} (hline : text.IsLine) :
    r.events text = [.token kind (r.run ++ text) false] ↔ m.kindOf? r.state text = some kind := by
  induction text generalizing r with
  | nil =>
    show r.ending = _ ↔ _
    simp [ending, hbusy, Machine.kindOf?]
  | cons b rest ih =>
    have hrest : Bytes.IsLine rest := fun c hmem => hline c (List.mem_cons_of_mem b hmem)
    rw [events_of_isLine hc hline, Machine.kindOf?]
    cases hstep : m.step r.state b with
    | shift next =>
      have hnext : m.isIdle next = false := hm.busy hstep
      have hoffer : r.offer b = ([], ⟨next, r.run ++ [b], .none⟩) := by
        simp only [offer, hbusy, hstep, take]
      have hmore := ih (r := ⟨next, r.run ++ [b], .none⟩) hnext rfl hrest
      rw [hoffer, List.nil_append]
      rwa [List.append_assoc, List.singleton_append] at hmore
    | accept next =>
      have hoffer : r.offer b = r.take b := by simp only [offer, hbusy, hstep]
      rw [hoffer, singleton_iff_of_accept hstep]
      cases rest <;> simp
    | reject next =>
      have hne : (r.offer b).1 ++ (r.offer b).2.events rest
          ≠ [.token kind (r.run ++ b :: rest) false] := ne_singleton_of_reject hbusy hstep _
      exact ⟨fun h => absurd h hne, fun h => absurd h (by simp)⟩

end Reading

namespace Machine

/-- A word without line ends is read as a single token of a kind if and only if the machine, run
over it, says so. Between tokens there must be none of the kind to end. -/
theorem tokens_eq_singleton_iff (hm : m.IsSteady) (hstart : m.isIdle m.start = true)
    (htakes : m.TakesAll) {kind : m.Kind} (hkind : (m.finish m.start).1 ≠ kind) {word : Bytes}
    (hline : word.IsLine) :
    m.tokens word = [.token kind word false] ↔ m.kindOf? m.start word = some kind := by
  have htokens : m.tokens word = Reading.events {} word := by
    rw [tokens, merged_events hm, List.flatten_singleton]
  cases word with
  | nil =>
    have hnil : Reading.events ({} : Reading m) [] = [] := if_pos hstart
    rw [htokens, hnil, kindOf?]
    simp [hkind]
  | cons b rest =>
    have hrest : Bytes.IsLine rest := fun c hmem => hline c (List.mem_cons_of_mem b hmem)
    have hoffer : Reading.offer ({} : Reading m) b = Reading.take {} b := by
      simp only [Reading.offer, hstart]
    rw [htokens, Reading.events_of_isLine rfl hline, hoffer, kindOf?]
    cases hstep : m.step m.start b with
    | shift next =>
      have hmore : Reading.events ⟨next, [b], .none⟩ rest = [.token kind ([b] ++ rest) false]
          ↔ m.kindOf? next rest = some kind :=
        Reading.events_eq_singleton_iff hm (hm.busy hstep) rfl hrest
      simp only [Reading.take, hstep]
      exact hmore
    | accept next =>
      have htake : (Reading.take {} b).1 ++ (Reading.take {} b).2.events rest
          = [.token kind ([] ++ b :: rest) false] ↔ rest = [] ∧ (m.finish next).1 = kind :=
        Reading.singleton_iff_of_accept hstep
      rw [List.nil_append] at htake
      rw [htake]
      cases rest <;> simp
    | reject next => exact absurd (htakes b) (by simp [hstep])

end Machine

/-! ### Words and languages -/

namespace Step

variable {σ : Type} {lang : σ → Language UInt8} {rest : Bytes}

/-- Whether the rest of a word completes a token after a step, if the words that complete one from a
state on are those of its language. -/
def Completes (lang : σ → Language UInt8) (rest : Bytes) : Step σ → Prop
  | .shift next => rest ∈ lang next
  | .accept next => rest = [] ∧ [] ∈ lang next
  | .reject _ => False

@[simp] theorem completes_shift {next : σ} :
    (Step.shift next).Completes lang rest ↔ rest ∈ lang next := Iff.rfl

@[simp] theorem completes_accept {next : σ} :
    (Step.accept next).Completes lang rest ↔ rest = [] ∧ [] ∈ lang next := Iff.rfl

@[simp] theorem completes_reject {next : σ} :
    (Step.reject next).Completes lang rest ↔ False := Iff.rfl

@[simp] theorem completes_ite {c : Prop} [Decidable c] {first second : Step σ} :
    (if c then first else second).Completes lang rest
      ↔ if c then first.Completes lang rest else second.Completes lang rest := by
  split <;> rfl

/-- Whether the step stays inside tokens that go through states with the property only. -/
def Within (p : σ → Prop) : Step σ → Prop
  | .shift next | .accept next => p next
  | .reject _ => True

variable {p : σ → Prop}

@[simp] theorem within_shift {next : σ} : (Step.shift next).Within p ↔ p next := Iff.rfl

@[simp] theorem within_accept {next : σ} : (Step.accept next).Within p ↔ p next := Iff.rfl

@[simp] theorem within_reject {next : σ} : (Step.reject next).Within p := trivial

@[simp] theorem within_ite {c : Prop} [Decidable c] {first second : Step σ} :
    (if c then first else second).Within p
      ↔ (c → first.Within p) ∧ (¬c → second.Within p) := by
  split <;> simp_all

/-- No word completes a token that goes on in states without words. -/
theorem Within.not_completes {step : Step σ} (h : step.Within p) (hlang : ∀ s, p s → lang s = 0) :
    ¬step.Completes lang rest := by
  cases step with
  | shift next =>
    rw [completes_shift, hlang next h]
    exact Language.notMem_zero rest
  | accept next =>
    rintro ⟨-, hnil⟩
    rw [hlang next h] at hnil
    exact Language.notMem_zero [] hnil
  | reject next => exact id

end Step

/-- From each state on, the words of its language are those that complete a token of the kind, as
far as one step of the machine can tell. -/
structure Machine.Recognizes (m : Machine) (kind : m.Kind) (lang : m.State → Language UInt8) :
    Prop where
  nil : ∀ s, [] ∈ lang s ↔ (m.finish s).1 = kind
  cons : ∀ s b rest, b :: rest ∈ lang s ↔ (m.step s b).Completes lang rest

/-- Languages that are right for one step are right for whole words. -/
theorem Machine.Recognizes.kindOf?_eq_some_iff {kind : m.Kind} {lang : m.State → Language UInt8}
    (h : m.Recognizes kind lang) (s : m.State) (word : Bytes) :
    m.kindOf? s word = some kind ↔ word ∈ lang s := by
  induction word generalizing s with
  | nil => rw [h.nil, kindOf?, Option.some.injEq]
  | cons b rest ih =>
    rw [h.cons, kindOf?]
    cases m.step s b with
    | shift next => exact ih next
    | accept next =>
      rw [Step.completes_accept, h.nil]
      cases rest <;> simp
    | reject next => simp

end MarkupFeed
