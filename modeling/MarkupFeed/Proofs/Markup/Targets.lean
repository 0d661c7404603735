import Mathlib.Data.String.Basic
import MarkupFeed.Proofs.Format.AttributeValues
import MarkupFeed.Proofs.Markup.Decorator

/-!
# Where marks are put, and that nothing else is

Marks behind the values of targets, and nothing else.

Which values are those of targets is said of whole tokens: the last token in front of the value that
has a say in it is a name `href` (`Targets.target?`). The renderer writes the pieces of a token at
once, and has all octets of it where it is complete (`Targets.render_step`, `Targets.rendered_eq`);
so what it writes is the text with the marks behind these values. Main statement:
`Highlight.passAll_targets`.
-/

namespace MarkupFeed

/-! ### Lists of targets -/

namespace Link

variable {target other : String} {links : List String}

theorem mem_record : other ∈ record target links ↔ other = target ∨ other ∈ links := by
  fun_induction record target links with
  | case1 => simp
  | case2 first rest hlt => simp
  | case3 rest hlt => simp
  | case4 first rest hlt heq ih =>
    rw [List.mem_cons, ih, List.mem_cons]
    exact or_left_comm

/-- A recorded target takes its place among the others. -/
theorem pairwise_record (h : links.Pairwise (· < ·)) : (record target links).Pairwise (· < ·) := by
  fun_induction record target links with
  | case1 => exact List.pairwise_singleton _ _
  | case2 first rest hlt =>
    refine List.pairwise_cons.mpr ⟨List.forall_mem_cons.mpr ⟨hlt, fun next hnext => ?_⟩, h⟩
    exact hlt.trans (List.rel_of_pairwise_cons h hnext)
  | case3 rest hlt => exact h
  | case4 first rest hlt heq ih =>
    rw [List.pairwise_cons] at h
    refine List.pairwise_cons.mpr ⟨fun next hnext => ?_, ih h.2⟩
    rcases mem_record.mp hnext with rfl | hrest
    · exact lt_of_le_of_ne (not_lt.mp hlt) (Ne.symm heq)
    · exact h.1 next hrest

/-- Targets recorded one after the other. -/
theorem recorded_spec (targets : List String) (h : links.Pairwise (· < ·)) :
    (targets.foldl (fun links target => record target links) links).Pairwise (· < ·)
      ∧ ∀ other, other ∈ targets.foldl (fun links target => record target links) links
        ↔ other ∈ targets ∨ other ∈ links := by
  induction targets generalizing links with
  | nil => exact ⟨h, fun other => by simp⟩
  | cons target targets ih =>
    obtain ⟨hpairwise, hmem⟩ := ih (pairwise_record h)
    refine ⟨hpairwise, fun other => ?_⟩
    rw [List.foldl_cons, hmem, mem_record, List.mem_cons, or_left_comm, or_assoc]

end Link

namespace Targets

open Xml (Kind)

/-! ### Values of targets -/

/-- Whether the event is a token that has a say in whether the next value is that of a target. -/
def decides : Event Kind → Bool
  | .token .name _ _ | .token .attValue _ _ | .token .declStart _ _ | .token .declEnd _ _ => true
  | _ => false

/-- Whether the event is the name of the attribute that has a target. -/
def isTargetName : Event Kind → Bool
  | .token .name text _ => Bytes.eqIgnoringCase text (Bytes.ascii "href")
  | _ => false

/-- Whether a value behind the events would be that of a target: the last of the tokens that have a
say in it is the name. -/
def awaits (before : List (Event Kind)) : Bool := (before.reverse.find? decides).any isTargetName

/-- The target an event behind some others has for its value. -/
def target? (before : List (Event Kind)) : Event Kind → Option String
  | .token .attValue text _ => if awaits before then some (valueOf text) else none
  | _ => none

/-- Each of the events behind some others, together with all that stand in front of it. -/
def places (before : List (Event Kind)) : List (Event Kind) → List (List (Event Kind) × Event Kind)
  | [] => []
  | event :: rest => (before, event) :: places (before ++ [event]) rest

/-- The targets among the events behind some others. -/
def targets (before events : List (Event Kind)) : List String :=
  (places before events).filterMap fun place => target? place.1 place.2

/-- What is written for an event in its place: its octets, and behind a target the mark of its
class. -/
def shown (site : Site) (place : List (Event Kind) × Event Kind) : Bytes :=
  place.2.text
    ++ (target? place.1 place.2).elim [] fun value =>
      Bytes.ascii (Link.classify site value).attribute

theorem awaits_concat (before : List (Event Kind)) (event : Event Kind) :
    awaits (before ++ [event]) = if decides event then isTargetName event else awaits before := by
  rw [awaits, List.reverse_concat, List.find?_cons]
  cases decides event <;> rfl

theorem places_append (before events more : List (Event Kind)) :
    places before (events ++ more) = places before events ++ places (before ++ events) more := by
  induction events generalizing before with
  | nil => rw [List.append_nil]; rfl
  | cons event events ih =>
    rw [List.cons_append, places, ih, List.append_assoc]
    rfl

theorem mem_places {before events front : List (Event Kind)} {event : Event Kind} :
    (front, event) ∈ places before events
      ↔ ∃ middle after, events = middle ++ event :: after ∧ front = before ++ middle := by
  induction events generalizing before with
  | nil => simp [places]
  | cons first rest ih =>
    rw [places, List.mem_cons, ih, Prod.mk.injEq]
    constructor
    · rintro (⟨rfl, rfl⟩ | ⟨middle, after, rfl, rfl⟩)
      · exact ⟨[], rest, rfl, (List.append_nil _).symm⟩
      · exact ⟨first :: middle, after, rfl, by simp⟩
    · rintro ⟨middle, after, heq, rfl⟩
      cases middle with
      | nil =>
        obtain ⟨rfl, -⟩ := List.cons.inj heq
        exact .inl ⟨List.append_nil _, rfl⟩
      | cons event middle =>
        obtain ⟨rfl, rfl⟩ := List.cons.inj heq
        exact .inr ⟨middle, after, rfl, by simp⟩

theorem mem_targets {events : List (Event Kind)} {target : String} :
    target ∈ targets [] events
      ↔ ∃ before event after, events = before ++ event :: after
        ∧ target? before event = some target := by
  rw [targets, List.mem_filterMap]
  constructor
  · rintro ⟨⟨before, event⟩, hplace, htarget⟩
    obtain ⟨_, after, heq, rfl⟩ := mem_places.mp hplace
    exact ⟨_, event, after, heq, htarget⟩
  · rintro ⟨before, event, after, heq, htarget⟩
    exact ⟨(before, event), mem_places.mpr ⟨before, after, heq, rfl⟩, htarget⟩

/-! ### Rendering -/

variable (site : Site)

theorem render_fragment (state : State) (kind : Kind) (text : Bytes) :
    let script := (renderer site).render state (.token kind text true)
    script.output = text ∧ script.final = { state with pending := state.pending ++ text } :=
  ⟨List.append_nil text, rfl⟩

/-- The piece that completes a token leaves the renderer as all events up to the token say, and the
mark is written behind it. -/
theorem render_last (before : List (Event Kind)) (pending : Bytes) (links : List String)
    (kind : Kind) (text : Bytes) :
    let event := Event.token kind (pending ++ text) false
    let script := (renderer site).render ⟨awaits before, pending, links⟩ (.token kind text false)
    pending ++ script.output = shown site (before, event)
      ∧ script.final = (⟨awaits (before ++ [event]), [],
        (target? before event).elim links (Link.record · links)⟩ : State) := by
  cases kind with
  | attValue =>
    cases h : awaits before <;>
      simp [Renderer.render, renderer, complete, awaits_concat, decides, isTargetName, target?,
        shown, Event.text, h, Script.final]
  | _ =>
    simp [Renderer.render, renderer, complete, awaits_concat, decides, isTargetName, target?,
      shown, Event.text, Script.final]

/-- A line end goes on the token in progress, if there is one. -/
theorem render_newline (state : State) (text : Bytes) :
    let script := (renderer site).render state (.newline text)
    script.output = text ∧ script.final = { state with
      pending := if state.pending.isEmpty then [] else state.pending ++ text } :=
  ⟨List.append_nil text, rfl⟩

/-- Where the renderer is behind some whole tokens, with the octets of one that is open. -/
def stateAt (before : List (Event Kind)) (run : Option Bytes) (links : List String) : State :=
  ⟨awaits before, run.getD [], links⟩

/-- The targets among the events, recorded one after the other. -/
def recorded (before events : List (Event Kind)) (links : List String) : List String :=
  (targets before events).foldl (fun links target => Link.record target links) links

theorem recorded_append (before events more : List (Event Kind)) (links : List String) :
    recorded before (events ++ more) links
      = recorded (before ++ events) more (recorded before events links) := by
  simp only [recorded, targets, places_append, List.filterMap_append, List.foldl_append]

/-- What is written for an event goes on what was written for the token that is open in front of it.
Together, these are the tokens it completes with the marks behind them, and the octets of the one
that is open behind it. -/
theorem render_step (before : List (Event Kind)) (run : Option Bytes) (links : List String)
    (event : Event Kind) (hrun : run ≠ some []) :
    let script := (renderer site).render (stateAt before run links) event
    let tokens := Event.wholesAfter run [event]
    let next := Event.openAfter run [event]
    run.getD [] ++ script.output = (places before tokens).flatMap (shown site) ++ next.getD []
      ∧ script.final = stateAt (before ++ tokens) next (recorded before tokens links) := by
  cases event with
  | token kind text fragment =>
    cases fragment with
    | true =>
      obtain ⟨houtput, hfinal⟩ := render_fragment site (stateAt before run links) kind text
      refine ⟨congrArg (run.getD [] ++ ·) houtput, hfinal.trans ?_⟩
      rw [Event.wholesAfter, Event.wholesAfter, List.append_nil]
      rfl
    | false =>
      obtain ⟨houtput, hfinal⟩ := render_last site before (run.getD []) links kind text
      refine ⟨houtput.trans ?_, hfinal.trans ?_⟩
      · simp [Event.wholesAfter, Event.openAfter, places]
      · simp only [recorded, targets, Event.wholesAfter, Event.openAfter, places,
          List.filterMap_cons, List.filterMap_nil]
        cases target? before (.token kind (run.getD [] ++ text) false) <;> rfl
  | newline text =>
    obtain ⟨houtput, hfinal⟩ := render_newline site (stateAt before run links) text
    cases run with
    | none =>
      refine ⟨houtput.trans ?_, hfinal.trans ?_⟩
      · simp [Event.wholesAfter, Event.openAfter, places, shown, target?, Event.text]
      · have hawaits : awaits (before ++ [.newline text]) = awaits before := awaits_concat before _
        exact congrArg (fun awaiting => (⟨awaiting, [], links⟩ : State)) hawaits.symm
    | some whole =>
      have hwhole : whole.isEmpty = false :=
        List.isEmpty_eq_false_iff.mpr fun hnil => hrun (congrArg some hnil)
      refine ⟨congrArg (whole ++ ·) houtput, hfinal.trans ?_⟩
      rw [Event.wholesAfter, Event.wholesAfter, List.append_nil]
      simp only [stateAt, Option.getD_some, hwhole, if_neg Bool.false_ne_true]
      rfl

/-- A token that is open has octets. -/
theorem openAfter_ne (run : Option Bytes) (event : Event Kind) (hrun : run ≠ some [])
    (hne : event.isFragment = true → event.text ≠ []) :
    Event.openAfter run [event] ≠ some [] := by
  cases event with
  | token kind text fragment =>
    cases fragment with
    | true =>
      have htext : text ≠ [] := hne rfl
      simp [Event.openAfter, htext]
    | false => simp [Event.openAfter]
  | newline text => cases run <;> simp_all [Event.openAfter]

/-- What is written for some events goes on the open token in front of them, as it does for one. -/
theorem rendered_eq (before events : List (Event Kind)) (run : Option Bytes) (links : List String)
    (hrun : run ≠ some []) (hne : ∀ event ∈ events, event.isFragment = true → event.text ≠ []) :
    let result := (renderer site).rendered (stateAt before run links) events
    let tokens := Event.wholesAfter run events
    let next := Event.openAfter run events
    run.getD [] ++ result.2 = (places before tokens).flatMap (shown site) ++ next.getD []
      ∧ result.1 = stateAt (before ++ tokens) next (recorded before tokens links) := by
  induction events generalizing before run links with
  | nil =>
    exact ⟨List.append_nil _, congrArg (stateAt · run links) (List.append_nil before).symm⟩
  | cons event events ih =>
    rw [List.forall_mem_cons] at hne
    obtain ⟨houtput, hfinal⟩ := render_step site before run links event hrun
    obtain ⟨hwritten, hresult⟩ := ih (before ++ Event.wholesAfter run [event])
      (Event.openAfter run [event]) (recorded before (Event.wholesAfter run [event]) links)
      (openAfter_ne run event hrun hne.1) hne.2
    have htokens : Event.wholesAfter run (event :: events) = Event.wholesAfter run [event]
        ++ Event.wholesAfter (Event.openAfter run [event]) events :=
      Event.wholesAfter_append run [event] events
    have hnext : Event.openAfter run (event :: events)
        = Event.openAfter (Event.openAfter run [event]) events :=
      Event.openAfter_append run [event] events
    simp only [Renderer.rendered, hfinal, htokens, hnext, places_append, List.flatMap_append]
    constructor
    · rw [← List.append_assoc, houtput, List.append_assoc, hwritten, List.append_assoc]
    · rw [hresult, List.append_assoc, recorded_append]

/-- What is rendered of an input: its whole tokens with the marks behind them, and no token is open
at its end. -/
theorem rendered_events (parts : List Bytes) :
    let result := (renderer site).rendered (stateAt [] none []) (Xml.machine.events parts)
    let tokens := Event.wholes (Xml.machine.events parts)
    result.2 = (places [] tokens).flatMap (shown site)
      ∧ result.1 = stateAt tokens none (recorded [] tokens []) := by
  have hopen : Event.openAfter none (Xml.machine.events parts) = none :=
    Machine.openAfter_events (Format.isSteady_machine Format.defaultStyle .xml)
      (Format.isSteadyOverLines_machine Format.defaultStyle .xml) parts
  obtain ⟨hwritten, hresult⟩ := rendered_eq site [] (Xml.machine.events parts) none [] (by simp)
    ((Machine.keeps_ne_nil Xml.machine).forall_mem_events parts)
  refine ⟨hwritten.trans ?_, hresult.trans (congrArg (stateAt _ · _) hopen)⟩
  exact (congrArg (_ ++ Option.getD · []) hopen).trans (List.append_nil _)

end Targets

/-- With its links checked, markup is written as it is, with the mark of its class directly behind
every value that is a target: an attribute value, if the last name, attribute value, start or end of
a declaration in front of it is a name `href`. A target is the text between the quotes of its value.
The targets are recorded in ascending order, each of them once. -/
theorem Highlight.passAll_targets (options : Options) (site : Site) (parts : List Bytes) :
    let written := (ofFormat .xml { options with checkLinks := true } site).fresh.passAll parts
    let tokens : List (Event Xml.Kind) := Event.wholes (Xml.machine.events [parts.flatten])
    Event.source tokens = parts.flatten
      ∧ written.2 = (Targets.places [] tokens).flatMap (Targets.shown site)
      ∧ (∀ text fragment, .token .attValue text fragment ∈ tokens → ∃ quote inner,
        text = quote :: (inner ++ [quote]) ∧ Xml.IsQuote quote ∧ quote ∉ inner
          ∧ Targets.valueOf text = Utf8.decodeLossy inner)
      ∧ written.1.links.Pairwise (· < ·)
      ∧ ∀ target, target ∈ written.1.links ↔ ∃ before event after,
        tokens = before ++ event :: after ∧ Targets.target? before event = some target := by
  have hm : Xml.machine.IsSteady := Format.isSteady_machine Format.defaultStyle .xml
  have hl : Xml.machine.IsSteadyOverLines :=
    Format.isSteadyOverLines_machine Format.defaultStyle .xml
  intro written tokens
  have htokens : Event.wholes (Xml.machine.events parts) = tokens := Machine.wholes_events hm parts
  obtain ⟨houtput, hrecorded⟩ := passAll_fresh ⟨Xml.machine, Targets.renderer site⟩ parts
  obtain ⟨hwritten, hresult⟩ := Targets.rendered_events site parts
  rw [htokens] at hwritten hresult
  have hall : written.1.links = Targets.recorded [] tokens [] :=
    hrecorded.trans (congrArg Targets.State.links hresult)
  obtain ⟨hascending, hmem⟩ := Link.recorded_spec (Targets.targets [] tokens) .nil
  refine ⟨?_, ?_, ?_, ?_, ?_⟩
  · rw [← htokens]
    exact Machine.source_wholes hm hl parts
  · exact houtput.trans hwritten
  · intro text fragment htoken
    obtain ⟨quote, inner, hquote, hinner, rfl⟩ := Xml.isQuoted_of_mem_wholes htoken
    refine ⟨quote, inner, rfl, hquote, hinner, ?_⟩
    rw [Targets.valueOf, List.drop_one, List.tail_cons, List.dropLast_concat]
  · rw [hall]
    exact hascending
  · intro target
    rw [hall]
    exact (hmem target).trans ((or_iff_left List.not_mem_nil).trans Targets.mem_targets)

/-- A value over two lines, in two parts, behind a name in capital letters. -/
example :
    ((Highlight.ofFormat .xml { checkLinks := true } ⟨"", fun _ => false⟩).fresh.passAll
      [Bytes.ascii "<a HREF=\"x", Bytes.ascii "\ny\" id=\"z\">"]).2
        = Bytes.ascii "<a HREF=\"x\ny\" class=\"new\" id=\"z\">" := by
  decide +kernel

end MarkupFeed
