/-!
# The parts of a path

The parts of a path's text. Repeated and trailing slashes and the component `.` do not count when a
path is taken apart.
-/

namespace MarkupFeed.FilePath

/-- The parts of a text between the occurrences of a character. -/
def splitAt (separator : Char) : List Char → List (List Char)
  | [] => [[]]
  | c :: rest =>
    if c = separator then [] :: splitAt separator rest
    else
      match splitAt separator rest with
      | [] => [[c]]
      | part :: parts => (c :: part) :: parts

/-- The parts of a path between its slashes, empty ones included. -/
def parts (path : String) : List String := (splitAt '/' path.toList).map String.ofList

/-- The components of a path that count. -/
def components (path : String) : List String :=
  (parts path).filter fun part => part ≠ "" ∧ part ≠ "."

/-- Whether the path starts at the root. -/
def isAbsolute (path : String) : Bool := path.toList.head? == some '/'

/-- Whether a part of the path leads upwards. -/
def hasParentPart (path : String) : Bool := (parts path).contains ".."

/-- The last component, unless it is `..`. -/
def fileName? (path : String) : Option String :=
  (components path).getLast?.filter (· ≠ "..")

/-- What follows the last dot of a file name. A leading dot starts no extension. -/
def extension? (path : String) : Option String := do
  let name ← fileName? path
  let reversed := name.toList.reverse
  match reversed.dropWhile (· ≠ '.') with
  | _ :: _ :: _ => some (String.ofList (reversed.takeWhile (· ≠ '.')).reverse)
  | _ => none

/-- The directory that holds the file. For a bare file name it is the empty path, which names
nothing; `./name` is in `.`. -/
def parent (path : String) : String :=
  let above := "/".intercalate (components path).dropLast
  if isAbsolute path then "/" ++ above
  else if (parts path).head? = some "." ∧ components path ≠ [] then
    if above = "" then "." else "./" ++ above
  else above

/-- A path below a directory. The empty path names nothing, and takes no slash. -/
def join (directory path : String) : String :=
  if directory = "" ∨ isAbsolute path then path
  else if directory.toList.getLast? = some '/' then directory ++ path
  else directory ++ "/" ++ path

end MarkupFeed.FilePath
