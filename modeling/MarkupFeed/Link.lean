import MarkupFeed.FilePath
import MarkupFeed.Text.Blank

/-!
# Links and the URLs they get

What a link points at, and the URL it gets.

A target is outside if it has a scheme or starts with `//`. All others are local; whether a local
one exists is asked of a lookup, under the part of its path in front of any `#` or `?`.
-/

namespace MarkupFeed

/-- What a link points at. -/
inductive LinkClass where
  /-- Another site. -/
  | outside
  /-- A local page that does not exist. -/
  | missing
  | local
  deriving DecidableEq, Repr

/-- The attribute that marks a link of the class. -/
def LinkClass.attribute : LinkClass → String
  | outside => " class=\"outside\""
  | missing => " class=\"new\""
  | LinkClass.local => ""

/-- The site links are rendered for. -/
structure Site where
  /-- The path local links are put under. -/
  top : String
  /-- Whether a path, relative to the root of the site, exists. -/
  hasPath : String → Bool

namespace Site

/-- The site whose paths are given one by one. -/
def ofPaths (top : String) (paths : List String) : Site := ⟨top, paths.contains⟩

/-- The path to ask about when a path is looked up below a root directory. A path that could lead
out of the directory is not asked about. -/
def question? (root path : String) : Option String :=
  if FilePath.hasParentPart path then none else some (FilePath.join root path)

/-- The site in a directory, given which paths exist. -/
def ofDirectory (top root : String) (exist : String → Bool) : Site :=
  ⟨top, fun path => (question? root path).any exist⟩

end Site

namespace Link

/-- Whether the target starts with a scheme such as `https:`. -/
def hasScheme : List Char → Bool
  | [] => false
  | c :: rest =>
    c.isAlpha &&
      (rest.dropWhile fun c => c.isAlphanum || c == '+' || c == '.' || c == '-').head? == some ':'

/-- Removes every `./` at the start. -/
def dropDotSlashes : List Char → List Char
  | '.' :: '/' :: rest => dropDotSlashes rest
  | text => text

/-- The path of a local target, relative to the root of the site. -/
def localPath (target : List Char) : List Char := (dropDotSlashes target).dropWhile (· == '/')

/-- The part of a path in front of any fragment or query. -/
def withoutQuery (path : List Char) : List Char :=
  path.takeWhile fun c => c != '#' && c != '?'

/-- The path that is looked up for a local target. -/
def lookupPath (target : String) : String :=
  String.ofList (withoutQuery (localPath target.toList))

/-- Whether the target is on another site. -/
def isOutside (target : String) : Bool :=
  hasScheme target.toList || target.toList.take 2 == ['/', '/']

/-- Whether the target is a place on the same page. -/
def isAnchor (target : String) : Bool := target.toList.head? == some '#'

/-- What a link points at. -/
def classify (site : Site) (target : String) : LinkClass :=
  if isOutside target then .outside
  else if isAnchor target then .local
  else if site.hasPath (lookupPath target) then .local
  else .missing

/-- The URL of a link. -/
def resolve (site : Site) (target : String) : String :=
  if isOutside target || isAnchor target then target
  else
    String.ofList (Text.dropEndWhile (· == '/') site.top.toList ++ '/' :: localPath target.toList)

/-- Adds a target to an ascending list of targets, unless it is there already. -/
def record (target : String) : List String → List String
  | [] => [target]
  | first :: rest =>
    if target < first then target :: first :: rest
    else if target = first then first :: rest
    else first :: record target rest

/-- The targets of several ascending lists, as one. -/
def recordAll (targets : List (List String)) : List String :=
  targets.flatten.foldr record []

end Link

end MarkupFeed
