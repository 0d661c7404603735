import MarkupFeed.Markup.References

/-!
# Spans around tokens

Wraps every token in `<span class="…">` with the title of its kind.

Tokens of white space only are written bare. A token that is reported in pieces is written once
its last piece gives the final kind; one that a line end interrupts is closed before the line end
and opened again after it.
-/

namespace MarkupFeed.Spans

variable {κ : Type} [TokenKind κ]

/-- The texts to write for a whole token, write by write: nothing for an empty one. -/
def span (escaped : Bool) (kind : κ) (text : Bytes) : List Bytes :=
  let shown := if escaped then References.pieces text else [text]
  if text.isEmpty then []
  else if text.all Octet.isBlank then shown
  else
    [Bytes.ascii "<span class=\"", Bytes.ascii (TokenKind.title kind), Bytes.ascii "\">"]
      ++ shown ++ [Bytes.ascii "</span>"]

/-- What waits for the rest of a token: its provisional kind, and its octets so far. -/
abbrev Pending (κ : Type) := Option (κ × Bytes)

/-- The texts to write for a pending token that a line end interrupts. -/
def interrupted (escaped : Bool) : Pending κ → List Bytes
  | none => []
  | some (kind, text) => span escaped kind text

/-- The renderer. Without escaping, token text is written as it is: for input that is markup
already. -/
def renderer (κ : Type) [TokenKind κ] (escaped : Bool) : Renderer κ where
  State := Pending κ
  start := none
  token pending kind text fragment :=
    let whole := pending.elim [] Prod.snd ++ text
    if fragment then .silent (some (kind, whole)) else .texts none (span escaped kind whole)
  newline pending text := .texts none (interrupted escaped pending ++ [text])

end MarkupFeed.Spans
