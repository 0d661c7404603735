import MarkupFeed.Bytes
import MarkupFeed.Text.Utf8

/-!
# The four characters markup reserves, and the references that stand for them
-/

namespace MarkupFeed.Entity

/-- What stands for an octet in markup: a reference for `&`, `<`, `>` and `"`, and the octet itself
otherwise. -/
def reference (b : UInt8) : Bytes :=
  if b = '&'.toUInt8 then Bytes.ascii "&amp;"
  else if b = '<'.toUInt8 then Bytes.ascii "&lt;"
  else if b = '>'.toUInt8 then Bytes.ascii "&gt;"
  else if b = '"'.toUInt8 then Bytes.ascii "&quot;"
  else [b]

/-- The text with every reserved character replaced by its reference. -/
def escape (text : Bytes) : Bytes := text.flatMap reference

/-- The octets of a text, escaped. -/
def escapeText (text : String) : Bytes := escape (Utf8.encode text)

theorem escape_append (a b : Bytes) : escape (a ++ b) = escape a ++ escape b :=
  List.flatMap_append

end MarkupFeed.Entity
