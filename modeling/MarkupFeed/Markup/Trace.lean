import MarkupFeed.Event
import MarkupFeed.Markup.Entity

/-!
# Traces of how an input was split

Shows how an input was split: every piece of a token becomes an element named for its kind, with
the piece's place in its buffer as an attribute and its octets, escaped, as content. Line ends are
marked by an empty element and copied as they are.
-/

namespace MarkupFeed.Trace

/-- The attribute that gives the place of a report in its buffer. -/
def place {κ : Type} (report : Report κ) : String :=
  " text=\"[" ++ toString report.first ++ "," ++ toString report.last ++ "]\""

/-- The trace of a report. -/
def element {κ : Type} [TokenKind κ] (report : Report κ) : Bytes :=
  match report.event with
  | .token kind text fragment =>
    let title := TokenKind.title kind
    Bytes.ascii
        ("<" ++ title ++ (if fragment then " fragment=\"1\"" else "") ++ place report ++ ">")
      ++ Entity.escape text ++ Bytes.ascii ("</" ++ title ++ ">")
  | .newline text => Bytes.ascii ("<newline" ++ place report ++ "/>") ++ text

/-- The trace of consecutive reports. -/
def ofReports {κ : Type} [TokenKind κ] (reports : List (Report κ)) : Bytes :=
  reports.flatMap element

end MarkupFeed.Trace
