import MarkupFeed.Machine
import MarkupFeed.Bytes

/-!
# What a tokenizer reports: pieces of tokens, and line ends

A token that is not yet complete when its buffer or its line ends is reported in several pieces,
all but the last of them fragments. `Event.merged` folds the pieces of a token together again;
`merged_source` says that this loses no octet. A `Report` is an event together with the place it
was found at, counted in the buffer it was reported through.
-/

namespace MarkupFeed

/-- A piece of a token, or a line end. -/
inductive Event (κ : Type) where
  /-- A piece of a token. Every piece of a token but the last is a `fragment`, and its kind is
  provisional. -/
  | token (kind : κ) (text : Bytes) (fragment : Bool)
  /-- A line end: LF, CR, or CR LF. -/
  | newline (text : Bytes)
  deriving DecidableEq, Repr

namespace Event

variable {κ : Type}

/-- The octets of an event. -/
def text : Event κ → Bytes
  | token _ text _ => text
  | newline text => text

/-- The title of a token's kind; `newline` for a line end. -/
def title [TokenKind κ] : Event κ → String
  | token kind _ _ => TokenKind.title kind
  | newline _ => "newline"

/-- Whether the event is a piece of a token that goes on. -/
def isFragment : Event κ → Bool
  | token _ _ fragment => fragment
  | newline _ => false

/-- Whether the event is a piece of text the format does not recognise. -/
def isError [DecidableEq κ] [TokenKind κ] : Event κ → Bool
  | token kind _ _ => kind == TokenKind.error
  | newline _ => false

/-- The octets of all events in order: the input they were read from. -/
def source (events : List (Event κ)) : Bytes := events.flatMap text

/-! ### Merging fragments -/

/-- The event a run of fragments becomes when it is cut off by a line end or the end of the
events: still a fragment. -/
def interrupted : Option (κ × Bytes) → List (Event κ)
  | none => []
  | some (kind, text) => [token kind text true]

/-- Merges events after an open run of fragments: its latest kind, and its octets. -/
def mergedAfter : Option (κ × Bytes) → List (Event κ) → List (Event κ)
  | run, [] => interrupted run
  | run, token kind text fragment :: rest =>
    let text := (run.elim [] Prod.snd) ++ text
    if fragment then mergedAfter (some (kind, text)) rest
    else token kind text false :: mergedAfter none rest
  | run, newline text :: rest => interrupted run ++ newline text :: mergedAfter none rest

/-- The events with each run of fragments folded into the piece that ends it. The run takes the
kind of its last piece. A run that a line end interrupts stays a fragment. -/
def merged (events : List (Event κ)) : List (Event κ) := mergedAfter none events

theorem mergedAfter_source (run : Option (κ × Bytes)) (events : List (Event κ)) :
    source (mergedAfter run events) = run.elim [] Prod.snd ++ source events := by
  fun_induction mergedAfter run events with
  | case1 run => cases run <;> simp [interrupted, source, text]
  | case2 run kind piece rest whole ih =>
    simp_all [source, text, whole]
  | case3 run kind piece fragment rest whole h ih =>
    simp_all [source, text, whole]
  | case4 run piece rest ih =>
    cases run <;> simp_all [interrupted, source, text]

/-- Merging loses no octet. -/
theorem merged_source (events : List (Event κ)) : source (merged events) = source events :=
  mergedAfter_source none events

/-! ### Views of a list of events -/

/-- Kind and octets of each complete token. -/
def complete (events : List (Event κ)) : List (κ × Bytes) :=
  events.filterMap fun
    | token kind text false => some (kind, text)
    | _ => none

/-- The kinds of the complete tokens. -/
def kinds (events : List (Event κ)) : List κ := (complete events).map Prod.fst

/-- Whether the event is a line end. -/
def isNewline : Event κ → Bool
  | token .. => false
  | newline _ => true

/-- The number of line ends. -/
def newlineCount (events : List (Event κ)) : Nat := events.countP isNewline

end Event

/-- An event and where it was found. -/
structure Report (κ : Type) where
  /-- What was found. -/
  event : Event κ
  /-- Where it starts in the buffer it was reported through. -/
  first : Nat
  /-- The length of that buffer. -/
  length : Nat
  deriving DecidableEq, Repr

namespace Report

variable {κ : Type}

/-- Where the event ends. -/
def last (report : Report κ) : Nat := report.first + report.event.text.length

/-- The report in short, such as `keyword[0,3)`, with a `+` after a fragment. -/
def display [TokenKind κ] (report : Report κ) : String :=
  report.event.title ++ "[" ++ toString report.first ++ "," ++ toString report.last ++ ")"
    ++ if report.event.isFragment then "+" else ""

/-- The events of some reports. -/
def events (reports : List (Report κ)) : List (Event κ) := reports.map Report.event

end Report

end MarkupFeed
