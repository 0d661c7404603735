import MarkupFeed.Pattern.Written
import MarkupFeed.Text.DecimalDigits

/-!
# What a written form means

The pattern that a written form means under flags.

Without Unicode, a set may only have ASCII members: what is written down must be ASCII, and no
complement can be taken. So there is no dot then, and no property. A form that breaks this rule, or
asks for a property that does not exist, means nothing.
-/

namespace MarkupFeed.Pattern

/-! ### Flags in force -/

/-- The flags in force at a point of a pattern. -/
structure Flags where
  ignoreCase : Bool := false
  multiLine : Bool := false
  dotAll : Bool := false
  unicode : Bool := true
  returns : Bool := false
  deriving DecidableEq, Repr

namespace Flags

/-- Turns a flag on or off. Two flags have no bearing on the meaning. -/
def set (flags : Flags) (flag : Flag) (on : Bool) : Flags :=
  match flag with
  | .ignoreCase => { flags with ignoreCase := on }
  | .multiLine => { flags with multiLine := on }
  | .dotAll => { flags with dotAll := on }
  | .unicode => { flags with unicode := on }
  | .returns => { flags with returns := on }
  | .swapGreed | .verbose => flags

/-- Turns flags on or off. -/
def change (flags : Flags) (changes : FlagChanges) : Flags :=
  changes.foldl (fun flags (flag, on) => flags.set flag on) flags

end Flags

/-! ### Sets -/

/-- The set with the ASCII letters that differ from a member in case only. -/
def closeUnderAsciiCase (runs : Runs) : Runs :=
  let capitals := runs.inter (.range 'A' 'Z')
  let smalls := runs.inter (.range 'a' 'z')
  .unions [runs, capitals.map (· + 0x20), smalls.map (· - 0x20)]

/-- The set, or what it is if case is ignored. -/
def Flags.adjust (flags : Flags) (runs : Runs) : Runs :=
  if !flags.ignoreCase then runs
  else if flags.unicode then Unicode.closeUnderCase runs
  else closeUnderAsciiCase runs

/-- The set or its complement, which only Unicode has. -/
def Flags.negate? (flags : Flags) (negated : Bool) (runs : Runs) : Option Runs :=
  if !negated then some runs else if flags.unicode then some runs.complement else none

/-- The characters of words. -/
def Flags.wordMembers (flags : Flags) : Runs :=
  if flags.unicode then Unicode.wordCharacter
  else .ofRanges [('0', '9'), ('A', 'Z'), ('_', '_'), ('a', 'z')]

/-- The set of an escape. -/
def Short.members (flags : Flags) : Short → Runs
  | digit => if flags.unicode then Text.decimalDigitRuns else .range '0' '9'
  | blank => if flags.unicode then Text.blankRuns else .ofRanges [('\t', '\r'), (' ', ' ')]
  | word => flags.wordMembers

/-- A literal in a set. -/
def Literal.member? (flags : Flags) (literal : Literal) : Option Char :=
  if flags.unicode || literal.char.toNat < 0x80 then some literal.char else none

/-- Applies an operation on sets. -/
def SetOperation.apply : SetOperation → Runs → Runs → Runs
  | inter => Runs.inter
  | diff => Runs.diff
  | symmDiff => Runs.symmDiff

mutual

/-- The members of a written set. Case is ignored before a complement is taken and before two sets
are combined. -/
def WrittenSet.members? (flags : Flags) : WrittenSet → Option Runs
  | .literal char => (char.member? flags).map Runs.single
  | .range low high => do
    some (.range (← low.member? flags) (← high.member? flags))
  | .named members negated => flags.negate? negated (flags.adjust members)
  | .short kind negated => flags.negate? negated (kind.members flags)
  | .property query negated =>
    if flags.unicode then do flags.negate? negated (flags.adjust (← query.runs?)) else none
  | .bracketed negated members => do
    flags.negate? negated (flags.adjust (← members.members? flags))
  | .union items => (membersOf flags items).map Runs.unions
  | .operation kind left right => do
    some (kind.apply (flags.adjust (← left.members? flags)) (flags.adjust (← right.members? flags)))

/-- The members of written sets. -/
def WrittenSet.membersOf (flags : Flags) : List WrittenSet → Option (List Runs)
  | [] => some []
  | set :: sets => do some ((← set.members? flags) :: (← membersOf flags sets))

end

/-! ### Characters and positions -/

/-- A literal outside of sets. Without Unicode it may be any character, but no octet beyond ASCII,
and only the case of ASCII letters can be ignored. -/
def Literal.pattern? (flags : Flags) (literal : Literal) : Option Pattern :=
  let single := Runs.single literal.char
  if flags.unicode || literal.char.toNat < 0x80 then some (one (flags.adjust single))
  else if literal.octet then none
  else some (one single)

/-- What the dot stands for. -/
def Flags.dot? (flags : Flags) : Option Pattern :=
  if !flags.unicode then none
  else if flags.dotAll then some (one .all)
  else if flags.returns then some (one (.complement (.ofRanges [('\n', '\n'), ('\r', '\r')])))
  else some (one (.complement (.single '\n')))

/-- The condition of a sign for a position. -/
def PositionSign.condition (flags : Flags) : PositionSign → Anchor
  | caret => if flags.multiLine then .lineStart flags.returns else .textStart
  | dollar => if flags.multiLine then .lineEnd flags.returns else .textEnd
  | textStart => .textStart
  | textEnd => .textEnd
  | word edge => .word edge flags.wordMembers

/-! ### Simplification -/

/-- Whether the pattern takes no character in any match. -/
def takesNothing : Pattern → Bool
  | empty | anchor _ => true
  | one _ => false
  | seq first second | alt first second => takesNothing first && takesNothing second
  | times _ _ body | group body => takesNothing body

/-- A pattern that is repeated. Where it takes nothing, once is as good as any number. -/
def repeated (body : Pattern) (least : Nat) (extra : Option Nat) : Pattern :=
  let most := extra.map (least + ·)
  let (least, most) :=
    if takesNothing body then (min least 1, some ((most.map (min · 1)).getD 1)) else (least, most)
  if most = some 0 then empty
  else if least = 1 ∧ most = some 1 then body
  else times least (most.map (· - least)) body

/-- The set of a pattern that is nothing else. -/
def members? : Pattern → Option Runs
  | one members => some members
  | _ => none

/-- Whether a set has one member. -/
def isSingle : Runs → Bool
  | [first, next] => next == first + 1
  | _ => false

/-- A choice between patterns. Alternatives that are all characters, or all other sets, are one
set. -/
def choice (branches : List Pattern) : Pattern :=
  let sets := branches.filterMap members?
  if sets.length = branches.length ∧ (sets.all isSingle ∨ sets.all (!isSingle ·)) then
    one (.unions sets)
  else
    match branches.reverse with
    | [] => one []
    | last :: others => others.foldl (fun second first => alt first second) last

/-! ### Patterns -/

mutual

/-- The pattern of a written form, and the flags that are in force after it. -/
def Written.pattern? (flags : Flags) : Written → Option (Pattern × Flags)
  | .empty => some (Pattern.empty, flags)
  | .flags changes => some (Pattern.empty, flags.change changes)
  | .literal char => (char.pattern? flags).map (·, flags)
  | .dot => flags.dot?.map (·, flags)
  | .position sign => some (anchor (sign.condition flags), flags)
  | .set members => (members.members? flags).map fun members => (one members, flags)
  | .repetition body least extra => do
    let (body, flags) ← body.pattern? flags
    some (repeated body least extra, flags)
  | .capture _ body => (body.pattern? flags).map fun (body, _) => (Pattern.group body, flags)
  | .group changes body => (body.pattern? (flags.change changes)).map fun (body, _) => (body, flags)
  | .concat items => (patternsOf flags items).map fun (items, flags) => (sequence items, flags)
  | .alternation branches =>
    (patternsOf flags branches).map fun (branches, flags) => (choice branches, flags)

/-- The patterns of written forms, and the flags that are in force after them. -/
def Written.patternsOf (flags : Flags) : List Written → Option (List Pattern × Flags)
  | [] => some ([], flags)
  | written :: others => do
    let (pattern, flags) ← written.pattern? flags
    let (patterns, flags) ← patternsOf flags others
    some (pattern :: patterns, flags)

end

end MarkupFeed.Pattern
