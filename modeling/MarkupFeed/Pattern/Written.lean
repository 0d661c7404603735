import MarkupFeed.Pattern
import MarkupFeed.Unicode.Property

/-!
# Patterns as they are written

Patterns as they are written: what a text says before flags give it a meaning.

Here are also the two things about the written form that decide whether it is admitted at all: how
deep it is nested, and the names of its groups.
-/

namespace MarkupFeed.Pattern

/-! ### Flags -/

/-- A flag of a pattern. -/
inductive Flag where
  /-- `i`: letters match in either case. -/
  | ignoreCase
  /-- `m`: `^` and `$` match at line ends. -/
  | multiLine
  /-- `s`: the dot matches line ends. -/
  | dotAll
  /-- `U`: which repetitions are greedy. Whether a text matches does not hang on it. -/
  | swapGreed
  /-- `u`: classes are those of Unicode, and not of ASCII. -/
  | unicode
  /-- `R`: carriage returns end lines too. -/
  | returns
  /-- `x`: white space and comments are skipped. -/
  | verbose
  deriving DecidableEq, Repr

/-- The flag of a letter. -/
def Flag.ofChar? (c : Char) : Option Flag :=
  match c with
  | 'i' => some ignoreCase
  | 'm' => some multiLine
  | 's' => some dotAll
  | 'U' => some swapGreed
  | 'u' => some unicode
  | 'R' => some returns
  | 'x' => some verbose
  | _ => none

/-- Flags that are turned on or off. -/
abbrev FlagChanges := List (Flag × Bool)

/-! ### Sets -/

/-- A literal character. -/
structure Literal where
  char : Char
  /-- Whether it is given by two hexadecimal digits, which without Unicode are an octet. -/
  octet : Bool := false
  deriving DecidableEq, Repr

/-- The sets with an escape of their own. -/
inductive Short where
  | digit
  | blank
  | word
  deriving DecidableEq, Repr

/-- How two sets in brackets are combined. -/
inductive SetOperation where
  | inter
  | diff
  | symmDiff
  deriving DecidableEq, Repr

/-- A set of characters as it is written. -/
inductive WrittenSet where
  | literal (char : Literal)
  | range (low high : Literal)
  | named (members : Runs) (negated : Bool)
  | short (kind : Short) (negated : Bool)
  | property (query : Unicode.Query) (negated : Bool)
  | bracketed (negated : Bool) (members : WrittenSet)
  /-- Items one after the other; a single one is not wrapped. -/
  | union (items : List WrittenSet)
  | operation (kind : SetOperation) (left right : WrittenSet)

/-! ### Patterns -/

/-- A sign for a position. -/
inductive PositionSign where
  /-- `^` -/
  | caret
  /-- `$` -/
  | dollar
  | textStart
  | textEnd
  | word (edge : WordEdge)
  deriving DecidableEq, Repr

/-- A pattern as it is written. -/
inductive Written where
  | empty
  /-- Flags for what follows, up to the end of the group around. -/
  | flags (changes : FlagChanges)
  | literal (char : Literal)
  | dot
  | position (sign : PositionSign)
  | set (members : WrittenSet)
  /-- At least `least` times, and at most `least + extra` times if a limit is given. -/
  | repetition (body : Written) (least : Nat) (extra : Option Nat)
  /-- A group that can be asked for by number, or by name. -/
  | capture (name : Option (List Char)) (body : Written)
  /-- A group with flags inside it. -/
  | group (changes : FlagChanges) (body : Written)
  /-- Patterns one after the other; a single one is not wrapped. -/
  | concat (items : List Written)
  /-- Alternatives; a single one is not wrapped. -/
  | alternation (branches : List Written)

/-! ### Nesting -/

mutual

/-- How deep a set is nested. -/
def WrittenSet.depth : WrittenSet → Nat
  | .bracketed _ members => members.depth + 1
  | .union items => if items.isEmpty then 0 else depths items + 1
  | .operation _ left right => max left.depth right.depth + 1
  | .literal _ | .range .. | .named .. | .short .. | .property .. => 0

/-- The depth of the deepest set of a list. -/
def WrittenSet.depths : List WrittenSet → Nat
  | [] => 0
  | set :: sets => max set.depth (depths sets)

end

mutual

/-- How deep a pattern is nested: every repetition, group, sequence, choice and pair of brackets is
a level. -/
def Written.depth : Written → Nat
  | .set members => members.depth
  | .repetition body .. | .capture _ body | .group _ body => body.depth + 1
  | .concat items | .alternation items => depths items + 1
  | .empty | .flags _ | .literal _ | .dot | .position _ => 0

/-- The depth of the deepest pattern of a list. -/
def Written.depths : List Written → Nat
  | [] => 0
  | written :: others => max written.depth (depths others)

end

/-! ### Names -/

mutual

/-- The names of the groups. -/
def Written.names : Written → List (List Char)
  | .capture name body => name.toList ++ body.names
  | .repetition body .. | .group _ body => body.names
  | .concat items | .alternation items => namesIn items
  | .empty | .flags _ | .literal _ | .dot | .position _ | .set _ => []

/-- The names of the groups in patterns of a list. -/
def Written.namesIn : List Written → List (List Char)
  | [] => []
  | written :: others => written.names ++ namesIn others

end

end MarkupFeed.Pattern
