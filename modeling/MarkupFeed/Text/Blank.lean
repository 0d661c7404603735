import MarkupFeed.Text.Runs

/-!
# White space

White space in the sense of Unicode's `White_Space` property, and what is built on
it: trimming, words, and collapsing.
-/

namespace MarkupFeed.Text

/-- The characters with the property `White_Space`. -/
def blankRuns : Runs :=
  [0x9, 0xE, 0x20, 0x21, 0x85, 0x86, 0xA0, 0xA1, 0x1680, 0x1681, 0x2000, 0x200B, 0x2028, 0x202A,
   0x202F, 0x2030, 0x205F, 0x2060, 0x3000, 0x3001]

/-- Whether the character is white space. -/
def isBlank (c : Char) : Bool := blankRuns.contains c

/-! ### Trimming -/

/-- Removes members of a class at the end. -/
def dropEndWhile {α : Type} (p : α → Bool) (list : List α) : List α :=
  (list.reverse.dropWhile p).reverse

/-- Removes characters of a class at both ends. -/
def trimChars (p : Char → Bool) (text : List Char) : List Char :=
  dropEndWhile p (text.dropWhile p)

/-- Removes white space at both ends. -/
def trim (text : String) : String := String.ofList (trimChars isBlank text.toList)

/-! ### Splitting -/

/-- The parts between the characters of a class: one more part than there are such characters. -/
def splitChars (p : Char → Bool) : List Char → List (List Char)
  | [] => [[]]
  | c :: rest =>
    if p c then [] :: splitChars p rest
    else
      match splitChars p rest with
      | [] => [[c]]
      | part :: parts => (c :: part) :: parts

/-- The words of a text: its maximal runs without white space. -/
def wordsOf (text : List Char) : List (List Char) :=
  (splitChars isBlank text).filter (!·.isEmpty)

/-- Puts a separator between parts and joins them. -/
def joinChars (separator : List Char) : List (List Char) → List Char
  | [] => []
  | [part] => part
  | part :: parts => part ++ separator ++ joinChars separator parts

/-- The words of a text with the separator between them. -/
def joinWords (separator : Char) (text : String) : String :=
  String.ofList (joinChars [separator] (wordsOf text.toList))

/-- The words of a text with one space between them. -/
def collapse (text : String) : String := joinWords ' ' text

end MarkupFeed.Text
