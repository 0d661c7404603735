import MarkupFeed.Bytes
import MarkupFeed.FilePath

/-!
# Files in directories

Files in directories, and what reading a path comes to. A path is walked part by part from the
directory it is relative to: every part but the last has to lead to a directory, and an empty part
or `.` stays where it is, so that `name/` is a directory or nothing.
-/

namespace MarkupFeed

/-- Why a path cannot be read. -/
inductive ReadError where
  | notFound
  | notDirectory
  | isDirectory
  | denied
  /-- Any other reason the system gives. -/
  | other (text : String)
  deriving DecidableEq, Repr

/-- The system's words for the error. -/
def ReadError.message : ReadError → String
  | notFound => "No such file or directory (os error 2)"
  | notDirectory => "Not a directory (os error 20)"
  | isDirectory => "Is a directory (os error 21)"
  | denied => "Permission denied (os error 13)"
  | other text => text

/-- What programs ask of the files around them. -/
structure Files where
  /-- The content of the file at a path. -/
  read : String → Except ReadError Bytes
  /-- Whether there is a file or directory at a path. -/
  exist : String → Bool

/-- Files by their components. Directories exist where files need them. -/
structure FileTree where
  files : List (List String × Bytes)
  deriving DecidableEq, Repr

namespace FileTree

/-- What is at a place. -/
inductive Entry where
  | file (content : Bytes)
  | directory
  deriving DecidableEq, Repr

/-- The tree of some files, given by their paths. -/
def ofList (files : List (String × Bytes)) : FileTree :=
  ⟨files.map fun (path, content) => (FilePath.components path, content)⟩

/-- What is at a place that is given by its components. -/
def entry? (tree : FileTree) (place : List String) : Option Entry :=
  match tree.files.find? (·.1 = place) with
  | some (_, content) => some (.file content)
  | none =>
    if place = [] ∨ tree.files.any (fun file => place.isPrefixOf file.1) then some .directory
    else none

/-- Walks the parts of a path from a place. -/
def walk (tree : FileTree) (place : List String) : List String → Except ReadError Entry
  | [] => (tree.entry? place).elim (.error .notFound) .ok
  | part :: rest =>
    match tree.entry? place with
    | none => .error .notFound
    | some (.file _) => .error .notDirectory
    | some .directory =>
      tree.walk
        (if part = "" ∨ part = "." then place
          else if part = ".." then place.dropLast
          else place ++ [part])
        rest

/-- What is at a path. The empty path names nothing, and the tree holds nothing at the root. -/
def lookup (tree : FileTree) (path : String) : Except ReadError Entry :=
  if path = "" ∨ FilePath.isAbsolute path then .error .notFound
  else tree.walk [] (FilePath.parts path)

/-- The content of the file at a path. -/
def read (tree : FileTree) (path : String) : Except ReadError Bytes :=
  match tree.lookup path with
  | .ok (.file content) => .ok content
  | .ok .directory => .error .isDirectory
  | .error error => .error error

/-- Whether there is a file or directory at a path. -/
def exist (tree : FileTree) (path : String) : Bool := (tree.lookup path).isOk

/-- The tree, as programs see it. -/
def view (tree : FileTree) : Files := ⟨tree.read, tree.exist⟩

example : (ofList [("a/b", [])]).exist "a/b/" = false := by decide +kernel

example : (ofList [("a/b", [])]).exist "./a//b" = true := by decide +kernel

end FileTree

end MarkupFeed
