import MarkupFeed.Format.Diagnostics
import MarkupFeed.Markup.Entity
import MarkupFeed.Text.Blank
import MarkupFeed.Text.Number
import MarkupFeed.Tokenizer

/-!
# Tables of diagnostics

Collects the tokens of compiler output into a table with one row for each diagnostic.

A file name opens a row, numbers and messages fill it in, and the end of the line puts it into the
table. A message on a line without a file name goes on with the latest row. What is no diagnostic
is passed over.
-/

namespace MarkupFeed

/-- A row of the table: where something was found, and what. A number that 32 bits do not hold is
left out. -/
structure Diagnostic where
  file : String
  line : Option UInt32 := none
  column : Option UInt32 := none
  message : String := ""
  deriving DecidableEq, Repr

namespace Diagnostic

/-- Goes on with the message, after a space if there is one already. -/
def append (row : Diagnostic) (text : String) : Diagnostic :=
  { row with message := if row.message.isEmpty then text else row.message ++ " " ++ text }

/-- The row in markup. -/
def html (row : Diagnostic) : Bytes :=
  Bytes.ascii "<tr><td>" ++ Entity.escapeText row.file ++ Bytes.ascii "</td><td>"
    ++ Bytes.ascii (row.line.elim "" fun line => toString line.toNat) ++ Bytes.ascii "</td><td>"
    ++ Entity.escapeText row.message ++ Bytes.ascii "</td></tr>\n"

end Diagnostic

/-- A table of diagnostics, in the middle of a line. -/
structure DiagnosticTable where
  /-- The rows of the lines before, latest first. -/
  closed : List Diagnostic := []
  /-- The row of this line. -/
  current : Option Diagnostic := none
  /-- How many numbers the line had so far. -/
  numbers : Nat := 0
  /-- The octets of the token in progress. -/
  pending : Bytes := []
  deriving DecidableEq, Repr

namespace DiagnosticTable

/-- The rows that are complete. -/
def rows (table : DiagnosticTable) : List Diagnostic := table.closed.reverse

/-- The row completed last. -/
def last? (table : DiagnosticTable) : Option Diagnostic := table.closed.head?

/-- Puts the row of the line into the table, if there is one. -/
def close (table : DiagnosticTable) : DiagnosticTable :=
  { table with closed := table.current.toList ++ table.closed, current := none, numbers := 0 }

/-- The row with a number filled in: the first one of its line is the line number, later ones are
column numbers. -/
def withNumber (row : Diagnostic) (count : Nat) (number : Option UInt32) : Diagnostic :=
  if count = 0 then { row with line := number } else { row with column := number }

/-- Goes on with the message of this line's row, or else of the latest one. -/
def appendMessage (table : DiagnosticTable) (text : String) : DiagnosticTable :=
  match table.current, table.closed with
  | some row, _ => { table with current := some (row.append text) }
  | none, row :: before => { table with closed := row.append text :: before }
  | none, [] => table

/-- Takes a whole token. -/
def take (table : DiagnosticTable) (kind : Diagnostics.Kind) (text : String) : DiagnosticTable :=
  match kind with
  | .filename => { table with current := some { file := text } }
  | .lineNum =>
    match table.current with
    | some row =>
      { table with
        current := some (withNumber row table.numbers (Text.word32? text))
        numbers := table.numbers + 1 }
    | none => table
  | .message => table.appendMessage (Text.trim text)
  | .separator => table
  | .error => { table with current := none }

/-- Takes an event. -/
def observe (table : DiagnosticTable) : Event Diagnostics.Kind → DiagnosticTable
  | .token kind text fragment =>
    let whole := table.pending ++ text
    if fragment then { table with pending := whole }
    else { table with pending := [] }.take kind (Utf8.decodeLossy whole)
  | .newline _ => table.close

/-- Takes consecutive events. -/
def observeAll (table : DiagnosticTable) (events : List (Event Diagnostics.Kind)) :
    DiagnosticTable :=
  events.foldl observe table

/-- The complete rows in markup. -/
def html (table : DiagnosticTable) : Bytes := table.rows.flatMap Diagnostic.html

/-- The table of a whole log that comes in the given buffers, its last line closed. -/
def ofBuffers (buffers : List Bytes) : DiagnosticTable :=
  (observeAll {} (Diagnostics.machine.events buffers)).close

end DiagnosticTable

end MarkupFeed
