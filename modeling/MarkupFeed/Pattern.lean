import MarkupFeed.Unicode.Trait

/-!
# Regular expressions

Regular expressions over characters, and whether a text contains a match.

A text is read once from left to right. What may still follow for a match to be completed is a list
of patterns, which `rests` brings from one character to the next; a match is found as soon as one
of them needs nothing more.
-/

namespace MarkupFeed

/-! ### Positions -/

/-- Where a position stands to the words around it. -/
inductive WordEdge where
  /-- A word starts or ends here. -/
  | boundary
  /-- No word starts or ends here. -/
  | noBoundary
  | wordStart
  | wordEnd
  /-- No word is before this position. -/
  | afterNoWord
  /-- No word is after this position. -/
  | beforeNoWord
  deriving DecidableEq, Repr

/-- A condition on a position between two characters. -/
inductive Anchor where
  | textStart
  | textEnd
  /-- A line starts here. Lines end with line feeds, or with carriage returns as well; the two
  together are then one end. -/
  | lineStart (returns : Bool)
  /-- A line ends here. -/
  | lineEnd (returns : Bool)
  /-- A condition on words, which consist of certain characters. -/
  | word (edge : WordEdge) (members : Runs)
  deriving DecidableEq, Repr

/-- Whether a position lies so, given whether a word's character is before it and after it. -/
def WordEdge.holds (edge : WordEdge) (before after : Bool) : Bool :=
  match edge with
  | boundary => before != after
  | noBoundary => before == after
  | wordStart => !before && after
  | wordEnd => before && !after
  | afterNoWord => !before
  | beforeNoWord => !after

/-- Whether an anchor holds between the character before and the character after. -/
def Anchor.holds (anchor : Anchor) (before after : Option Char) : Bool :=
  match anchor with
  | textStart => before.isNone
  | textEnd => after.isNone
  | lineStart returns =>
    before.isNone || before == some '\n'
      || (returns && before == some '\r' && after != some '\n')
  | lineEnd returns =>
    after.isNone || (after == some '\n' && !(returns && before == some '\r'))
      || (returns && after == some '\r')
  | word edge members => edge.holds (before.any members.contains) (after.any members.contains)

/-- A regular expression. -/
inductive Pattern where
  | empty
  | one (members : Runs)
  | anchor (condition : Anchor)
  | seq (first second : Pattern)
  | alt (first second : Pattern)
  /-- At least `least` times, and at most `least + extra` times if a limit is given. -/
  | times (least : Nat) (extra : Option Nat) (body : Pattern)
  /-- A part whose match could be asked for. -/
  | group (body : Pattern)
  deriving DecidableEq, Repr

namespace Pattern

/-! ### Common shapes -/

/-- One pattern after the other, where the empty one needs no place. -/
def andThen (first second : Pattern) : Pattern :=
  if first = empty then second else if second = empty then first else seq first second

/-- Patterns one after the other. -/
def sequence (patterns : List Pattern) : Pattern := patterns.foldr andThen empty

/-- Any number of times. -/
def star (body : Pattern) : Pattern := times 0 none body

/-- Once or more. -/
def plus (body : Pattern) : Pattern := times 1 none body

/-! ### Matching -/

/-- Whether the pattern matches the empty text between the character before and the character
after. -/
def matchesEmpty (before after : Option Char) : Pattern → Bool
  | empty => true
  | one _ => false
  | anchor condition => condition.holds before after
  | seq first second => matchesEmpty before after first && matchesEmpty before after second
  | alt first second => matchesEmpty before after first || matchesEmpty before after second
  | times least _ body => least == 0 || matchesEmpty before after body
  | group body => matchesEmpty before after body

/-- The rounds that may follow once a round of a repetition has taken a character, if any round is
allowed. Where a round may take nothing, any number of rounds before it may have been empty, so
none of those still owed has to follow. -/
def laterRounds? (body : Pattern) (mayBeEmpty : Bool) : Nat → Option Nat → Option Pattern
  | 0, none => some (star body)
  | 0, some 0 => none
  | 0, some (extra + 1) => some (times 0 (some extra) body)
  | least + 1, extra =>
    if mayBeEmpty then some (times 0 (extra.map (· + least)) body)
    else some (times least extra body)

/-- What is left to match once a character has been taken, given the character before it: any of
the patterns listed. -/
def rests (before : Option Char) (c : Char) : Pattern → List Pattern
  | empty | anchor _ => []
  | one members => if members.contains c then [empty] else []
  | seq first second =>
    (rests before c first).map (andThen · second)
      ++ if matchesEmpty before (some c) first then rests before c second else []
  | alt first second => rests before c first ++ rests before c second
  | times least extra body =>
    match laterRounds? body (matchesEmpty before (some c) body) least extra with
    | none => []
    | some later => (rests before c body).map (andThen · later)
  | group body => rests before c body

/-- Whether one of the matches `begun` before, or one that starts later, can be completed. -/
def search (pattern : Pattern) (before : Option Char) (begun : List Pattern) :
    List Char → Bool
  | [] => (pattern :: begun).any (matchesEmpty before none)
  | c :: text =>
    let candidates := pattern :: begun
    candidates.any (matchesEmpty before (some c))
      || search pattern (some c) (candidates.flatMap (rests before c)).eraseDups text

/-- Whether some stretch of the text matches. -/
def occursIn (pattern : Pattern) (text : String) : Bool := search pattern none [] text.toList

end Pattern

end MarkupFeed
