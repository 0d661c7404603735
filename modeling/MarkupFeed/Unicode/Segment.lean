import MarkupFeed.Unicode.Script
import MarkupFeed.Unicode.Trait

/-!
# The roles of characters in segmentation

What part characters play where text is cut into graphemes, words and sentences, after the
properties `Grapheme_Cluster_Break`, `Word_Break` and `Sentence_Break`.

The rules that define the values are followed here: most of them are general categories and traits
with a few characters more or less. A character that none of the values fits plays no part.
-/

namespace MarkupFeed.Unicode

/-! ### Graphemes -/

/-- Characters that extend a grapheme. -/
def extendsGrapheme : Runs := graphemeExtend.union emojiModifier

/-- Line ends, controls, and format characters that are not part of a grapheme. -/
def graphemeControl : Runs :=
  ((inCategories ["Cc", "Cf", "Zl", "Zp"]).union (unassigned.inter defaultIgnorable)).diff
    (.unions [.ofList [0xA, 0xD, 0x200C, 0x200D], prependedConcatenationMark, extendsGrapheme])

/-- Consonants and signs that belong to the grapheme after them. -/
def prependsGrapheme : Runs :=
  prependedConcatenationMark.union
    [0xD4E, 0xD4F, 0x111C2, 0x111C4, 0x113D1, 0x113D2, 0x1193F, 0x11940, 0x11941, 0x11942, 0x11A3A,
     0x11A3B, 0x11A84, 0x11A8A, 0x11D46, 0x11D47, 0x11F02, 0x11F03]

/-- Spacing marks that stand alone. -/
def spacesAlone : Runs :=
  [0x102B, 0x102D, 0x1038, 0x1039, 0x1062, 0x1065, 0x1067, 0x106E, 0x1083, 0x1084, 0x1087, 0x108D,
   0x108F, 0x1090, 0x109A, 0x109D, 0x1A61, 0x1A62, 0x1A63, 0x1A65, 0xAA7B, 0xAA7C, 0xAA7D, 0xAA7E,
   0x11720, 0x11722]

/-- Spacing marks that belong to the grapheme before them. -/
def graphemeSpacingMark : Runs :=
  (((inCategories ["Mc"]).diff extendsGrapheme).union (.ofList [0xE33, 0xEB3])).diff spacesAlone

/-- The Hangul syllables that end in a vowel: every twenty-eighth one. -/
def openSyllables : Runs := .ofList ((List.range 399).map fun i => 0xAC00 + 28 * i)

/-- The Hangul syllables. -/
def syllables : Runs := [0xAC00, 0xD7A4]

/-- The values of `Grapheme_Cluster_Break` with their names. -/
def graphemeBreaks : List (List String × Runs) :=
  [(["CR"], .ofList [0xD]), (["LF"], .ofList [0xA]), (["Control", "CN"], graphemeControl),
   (["Extend", "EX"], extendsGrapheme), (["ZWJ"], .ofList [0x200D]),
   (["Regional_Indicator", "RI"], regionalIndicator), (["Prepend", "PP"], prependsGrapheme),
   (["SpacingMark", "SM"], graphemeSpacingMark), (["L"], [0x1100, 0x1160, 0xA960, 0xA97D]),
   (["V"], [0x1160, 0x11A8, 0xD7B0, 0xD7C7, 0x16D63, 0x16D64, 0x16D67, 0x16D6B]),
   (["T"], [0x11A8, 0x1200, 0xD7CB, 0xD7FC]), (["LV"], openSyllables),
   (["LVT"], syllables.diff openSyllables)]

/-! ### Words -/

/-- Characters that extend a word. -/
def extendsWord : Runs := .unions [graphemeExtend, inCategories ["Mc"], emojiModifier]

/-- Signs that stand before numbers. -/
def numberSigns : Runs := prependedConcatenationMark.diff (.ofList [0x70F])

/-- Digits, and signs that are treated like them. -/
def numeric : Runs := .unions [inCategories ["Nd"], .ofList [0x66B], numberSigns]

/-- Format characters inside words. -/
def wordFormat : Runs :=
  (inCategories ["Cf"]).diff
    (.unions [.ofList [0x200B, 0x200C, 0x200D], extendsWord, prependedConcatenationMark])

/-- Katakana, and marks used with them. -/
def wordKatakana : Runs :=
  (inScript "Kana").union
    [0x3031, 0x3036, 0x309B, 0x309D, 0x30A0, 0x30A1, 0x30FC, 0x30FD, 0xFF70, 0xFF71]

/-- The letters of the Hebrew script. -/
def hebrewLetter : Runs := (inScript "Hebr").inter (inCategories ["Lo"])

/-- Scripts that write no blanks between words. -/
def scriptsWithoutBlanks : List String :=
  ["Ahom", "Hira", "Khmr", "Lana", "Laoo", "Mymr", "Tale", "Talu", "Tavt", "Thai"]

/-- Signs that occur in words like letters. -/
def letterLike : Runs :=
  [0x2C2, 0x2C6, 0x2D2, 0x2D8, 0x2DE, 0x2E0, 0x2E5, 0x2EC, 0x2ED, 0x2EE, 0x2EF, 0x300, 0x55A, 0x55D,
   0x55E, 0x55F, 0x58A, 0x58B, 0x5F3, 0x5F4, 0x70F, 0x710, 0xA708, 0xA717, 0xA720, 0xA722, 0xA789,
   0xA78B, 0xAB5B, 0xAB5C]

/-- The letters of scripts that write blanks between words. -/
def wordLetter : Runs :=
  (alphabetic.union letterLike).diff
    (.unions ([ideographic, wordKatakana, extendsWord, hebrewLetter]
      ++ scriptsWithoutBlanks.map inScript))

/-- The values of `Word_Break` with their names. -/
def wordBreaks : List (List String × Runs) :=
  [(["CR"], .ofList [0xD]), (["LF"], .ofList [0xA]),
   (["Newline", "NL"], [0xB, 0xD, 0x85, 0x86, 0x2028, 0x202A]), (["Extend"], extendsWord),
   (["ZWJ"], .ofList [0x200D]), (["Regional_Indicator", "RI"], regionalIndicator),
   (["Format", "FO"], wordFormat), (["Katakana", "KA"], wordKatakana),
   (["Hebrew_Letter", "HL"], hebrewLetter), (["ALetter", "LE"], wordLetter),
   (["Single_Quote", "SQ"], .single '\''), (["Double_Quote", "DQ"], .single '"'),
   (["MidNumLet", "MB"], .ofList [0x2E, 0x2018, 0x2019, 0x2024, 0xFE52, 0xFF07, 0xFF0E]),
   (["MidLetter", "ML"],
     .ofList [0x3A, 0xB7, 0x387, 0x55F, 0x5F4, 0x2027, 0xFE13, 0xFE55, 0xFF1A]),
   (["MidNum", "MN"],
     .ofList [0x2C, 0x3B, 0x37E, 0x589, 0x60C, 0x60D, 0x66C, 0x7F8, 0x2044, 0xFE10, 0xFE14, 0xFE50,
       0xFE54, 0xFF0C, 0xFF1B]),
   (["Numeric", "NU"], numeric),
   (["ExtendNumLet", "EX"], (inCategories ["Pc"]).union (.single '\u202f')),
   (["WSegSpace"], (inCategories ["Zs"]).diff (.ofList [0xA0, 0x2007, 0x202F]))]

/-! ### Sentences -/

/-- Characters that extend what is before them. -/
def extendsSentence : Runs := .unions [graphemeExtend, inCategories ["Mc"], .ofList [0x200D]]

/-- The paragraph and line separators, and the next line control. -/
def sentenceSeparator : Runs := .ofList [0x85, 0x2028, 0x2029]

/-- Small letters, without the letters of the Georgian script, which has no case in sentences. -/
def sentenceLower : Runs :=
  lowercase.diff (graphemeExtend.union [0x10D0, 0x10FB, 0x10FD, 0x1100])

/-- Capitals and title letters, without the capitals of the Georgian script. -/
def sentenceUpper : Runs :=
  (uppercase.union (inCategories ["Lt"])).diff [0x1C90, 0x1CBB, 0x1CBD, 0x1CC0]

/-- Full stops, which may end a sentence. -/
def fullStop : Runs := .ofList [0x2E, 0x2024, 0xFE52, 0xFF0E]

/-- Other marks that end a sentence. -/
def sentenceEnd : Runs := sentenceTerminal.diff fullStop

/-- Quotation marks beside those that are initial or final punctuation. -/
def neutralQuotes : Runs :=
  [0x22, 0x23, 0x27, 0x28, 0x275B, 0x2761, 0x2E00, 0x2E02, 0x2E06, 0x2E09, 0x2E0B, 0x2E0C, 0x1F676,
   0x1F679]

/-- Brackets and quotation marks. -/
def sentenceClose : Runs :=
  ((inCategories ["Ps", "Pe", "Pi", "Pf"]).union neutralQuotes).diff (fullStop.union sentenceEnd)

/-- The values of `Sentence_Break` with their names. -/
def sentenceBreaks : List (List String × Runs) :=
  [(["CR"], .ofList [0xD]), (["LF"], .ofList [0xA]), (["Extend", "EX"], extendsSentence),
   (["Sep", "SE"], sentenceSeparator),
   (["Format", "FO"],
     (inCategories ["Cf"]).diff (extendsSentence.union prependedConcatenationMark)),
   (["Sp", "SP"], Text.blankRuns.diff (sentenceSeparator.union (.ofList [0xA, 0xD]))),
   (["Lower", "LO"], sentenceLower), (["Upper", "UP"], sentenceUpper),
   (["OLetter", "LE"],
     (alphabetic.union (.ofList [0x5F3, 0x70F])).diff
       (.unions [sentenceLower, sentenceUpper, extendsSentence])),
   (["Numeric", "NU"], numeric.union (.ofList [0x66C])), (["ATerm", "AT"], fullStop),
   (["SContinue", "SC"],
     [0x2C, 0x2E, 0x3A, 0x3C, 0x37E, 0x37F, 0x55D, 0x55E, 0x60C, 0x60E, 0x7F8, 0x7F9, 0x1802,
      0x1803, 0x1808, 0x1809, 0x2013, 0x2015, 0x3001, 0x3002, 0xFE10, 0xFE12, 0xFE13, 0xFE15,
      0xFE31, 0xFE33, 0xFE50, 0xFE52, 0xFE54, 0xFE56, 0xFE58, 0xFE59, 0xFE63, 0xFE64, 0xFF0C,
      0xFF0E, 0xFF1A, 0xFF1C, 0xFF64, 0xFF65]),
   (["STerm", "ST"], sentenceEnd), (["Close", "CL"], sentenceClose)]

end MarkupFeed.Unicode
