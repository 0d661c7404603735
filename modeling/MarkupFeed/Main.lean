import MarkupFeed.CommandLine

/-!
# The program

Fetches the files a command needs, runs it, and prints what it comes to.
-/

open MarkupFeed

/-- Why the system did not read a file. -/
def readErrorOf : IO.Error → ReadError
  | .noFileOrDirectory .. | .noSuchThing .. => .notFound
  | .inappropriateType _ code _ => if code = 20 then .notDirectory else .isDirectory
  | .permissionDenied .. => .denied
  | error => .other (toString error)

/-- Reads a file. -/
def fetch (path : String) : IO (Except ReadError Bytes) := do
  try
    let content ← IO.FS.readBinFile path
    return .ok content.toList
  catch error => return .error (readErrorOf error)

/-- Whether there is something at a path. -/
def ask (path : String) : IO Bool := do
  try
    discard (IO.FS.realPath path)
    return true
  catch _ => return false

/-- The files that were fetched. -/
def fetched (contents : List (String × Except ReadError Bytes)) (found : List String) : Files where
  read path := (contents.lookup path).getD (.error .notFound)
  exist path := found.contains path

/-- Runs the program with the arguments of its command line. -/
def main (arguments : List String) : IO UInt32 := do
  let invocation := CommandLine.read? arguments
  let contents ← (invocation.elim [] Invocation.paths).mapM fun path => return (path, ← fetch path)
  let questions := invocation.elim [] (Invocation.questions (fetched contents []))
  let found ← questions.filterM ask
  let response := respond (fetched contents found) arguments
  (← IO.getStdout).write (ByteArray.mk response.output.toArray)
  (← IO.getStderr).putStr response.complaint
  return response.code.toUInt32
