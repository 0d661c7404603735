import MarkupFeed.Pattern.Meaning
import MarkupFeed.Pattern.Reader
import MarkupFeed.Pattern.Size

/-!
# From a text to the pattern it is

The pattern of a text: its written form is read, and admitted if no two groups share a name, if it
is nested no deeper than 250 levels, if it has a meaning, and if the automata of that meaning are
not too large.
-/

namespace MarkupFeed.Pattern

/-- The pattern of a text, if it is one. -/
def parse? (text : String) : Option Pattern := do
  let written ← Written.read? text
  if written.names.Nodup ∧ written.depth ≤ 250 then
    let (pattern, _) ← written.pattern? {}
    if pattern.fits then some pattern else none
  else none

end MarkupFeed.Pattern
