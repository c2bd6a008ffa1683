/-
  Unicode/Break.lean --- where text may break into characters, words and sentences.

  The three properties give every character a class, and the rules for breaking
  text speak of the classes of neighbours.  A character of none of the listed
  classes is in the class `Other`, which has no name here.
-/
import LogLine.Unicode.Property
import LogLine.Unicode.Script

set_option autoImplicit false

namespace LogLine.Unicode

/-! ## Grapheme clusters -/

/-- The characters before which no cluster ends, beside those that extend one. -/
def prepend : CharSet :=
  [(0x600, 0x605), (0x6DD, 0x6DD), (0x70F, 0x70F), (0x890, 0x891), (0x8E2, 0x8E2), (0xD4E, 0xD4E),
   (0x110BD, 0x110BD), (0x110CD, 0x110CD), (0x111C2, 0x111C3), (0x113D1, 0x113D1),
   (0x1193F, 0x1193F), (0x11941, 0x11941), (0x11A3A, 0x11A3A), (0x11A84, 0x11A89),
   (0x11D46, 0x11D46), (0x11F02, 0x11F02)]

/-- The characters that extend a cluster. -/
def clusterExtend : CharSet := graphemeExtend.union emojiModifier

/-- The characters that stand in a cluster of their own. -/
def clusterControl : CharSet :=
  (CharSet.unionOf [lineSeparator, paragraphSeparator, control, format,
    unassigned.intersection defaultIgnorableCodePoint]).difference
      (CharSet.unionOf [[(0xA, 0xA), (0xD, 0xD), (0x200C, 0x200D)], prependedConcatenationMark,
        clusterExtend])

/-- Spacing marks that begin a cluster. -/
def detachedMarks : CharSet :=
  [(0x102B, 0x102C), (0x1038, 0x1038), (0x1062, 0x1064), (0x1067, 0x106D), (0x1083, 0x1083),
   (0x1087, 0x108C), (0x108F, 0x108F), (0x109A, 0x109C), (0x1A61, 0x1A61), (0x1A63, 0x1A64),
   (0xAA7B, 0xAA7B), (0xAA7D, 0xAA7D), (0x11720, 0x11721)]

/-- The marks that stay with the character before them. -/
def clusterSpacingMark : CharSet :=
  (spacingMark.union [(0xE33, 0xE33), (0xEB3, 0xEB3)]).difference
    (clusterExtend.union detachedMarks)

/-- The Hangul syllables of a consonant and a vowel: one in 28. -/
def openSyllables : CharSet :=
  (List.range 399).map fun i => (0xAC00 + 28 * i, 0xAC00 + 28 * i)

/-- The Hangul syllables that end in a consonant. -/
def closedSyllables : CharSet :=
  (List.range 399).map fun i => (0xAC01 + 28 * i, 0xAC1B + 28 * i)

/-- The class of grapheme cluster breaks with this name. -/
def graphemeBreak? (name : String) : Option CharSet :=
  match name with
  | "cn" | "control" => some clusterControl
  | "cr" => some [(0xD, 0xD)]
  | "ex" | "extend" => some clusterExtend
  | "l" => some [(0x1100, 0x115F), (0xA960, 0xA97C)]
  | "lf" => some [(0xA, 0xA)]
  | "lv" => some openSyllables
  | "lvt" => some closedSyllables
  | "pp" | "prepend" => some prepend
  | "ri" | "regionalindicator" => some regionalIndicator
  | "sm" | "spacingmark" => some clusterSpacingMark
  | "t" => some [(0x11A8, 0x11FF), (0xD7CB, 0xD7FB)]
  | "v" => some [(0x1160, 0x11A7), (0xD7B0, 0xD7C6), (0x16D63, 0x16D63), (0x16D67, 0x16D6A)]
  | "zwj" => some [(0x200D, 0x200D)]
  | _ => none

/-! ## Sentences -/

/-- The characters that belong to the one before them. -/
def sentenceExtend : CharSet :=
  CharSet.unionOf [graphemeExtend, spacingMark, [(0x200D, 0x200D)]]

/-- The letters that may begin a sentence's second word, but not its first. -/
def sentenceLower : CharSet :=
  lowercase.difference (graphemeExtend.union [(0x10D0, 0x10FA), (0x10FD, 0x10FF)])

/-- The letters that begin a sentence. -/
def sentenceUpper : CharSet :=
  (titlecaseLetter.union uppercase).difference [(0x1C90, 0x1CBA), (0x1CBD, 0x1CBF)]

/-- Letters without case. -/
def sentenceLetter : CharSet :=
  (alphabetic.union [(0x5F3, 0x5F3)]).difference
    (CharSet.unionOf [sentenceLower, sentenceUpper, sentenceExtend])

/-- The characters of numbers. -/
def sentenceNumeric : CharSet :=
  CharSet.unionOf [decimalNumber, [(0x66B, 0x66C), (0x19DA, 0x19DA)],
    prependedConcatenationMark.difference [(0x70F, 0x70F)]]

/-- Full stops that may end a sentence. -/
def ambiguousStops : CharSet :=
  [(0x2E, 0x2E), (0x2024, 0x2024), (0xFE52, 0xFE52), (0xFF0E, 0xFF0E)]

/-- The characters that end a sentence. -/
def sentenceStops : CharSet := sentenceTerminal.difference ambiguousStops

/-- Brackets and quotation marks. -/
def sentenceClose : CharSet :=
  (CharSet.unionOf [openPunctuation, closePunctuation, initialPunctuation, finalPunctuation,
    quotationMark, [(0x275B, 0x2760), (0x2E00, 0x2E01), (0x2E06, 0x2E08), (0x2E0B, 0x2E0B),
      (0x1F676, 0x1F678)]]).difference
    (CharSet.unionOf [ambiguousStops, sentenceStops, [(0xFF02, 0xFF02), (0xFF07, 0xFF07)]])

/-- The characters that go on with a sentence. -/
def sentenceContinue : CharSet :=
  [(0x2C, 0x2D), (0x3A, 0x3B), (0x37E, 0x37E), (0x55D, 0x55D), (0x60C, 0x60D), (0x7F8, 0x7F8),
   (0x1802, 0x1802), (0x1808, 0x1808), (0x2013, 0x2014), (0x3001, 0x3001), (0xFE10, 0xFE11),
   (0xFE13, 0xFE14), (0xFE31, 0xFE32), (0xFE50, 0xFE51), (0xFE54, 0xFE55), (0xFE58, 0xFE58),
   (0xFE63, 0xFE63), (0xFF0C, 0xFF0D), (0xFF1A, 0xFF1B), (0xFF64, 0xFF64)]

/-- The class of sentence breaks with this name. -/
def sentenceBreak? (name : String) : Option CharSet :=
  match name with
  | "at" | "aterm" => some ambiguousStops
  | "cl" | "close" => some sentenceClose
  | "cr" => some [(0xD, 0xD)]
  | "ex" | "extend" => some sentenceExtend
  | "fo" | "format" => some (format.difference (sentenceExtend.union sentenceNumeric))
  | "le" | "oletter" => some sentenceLetter
  | "lf" => some [(0xA, 0xA)]
  | "lo" | "lower" => some sentenceLower
  | "nu" | "numeric" => some sentenceNumeric
  | "sc" | "scontinue" => some sentenceContinue
  | "se" | "sep" => some [(0x85, 0x85), (0x2028, 0x2029)]
  | "sp" =>
    some (CharSet.difference Text.blanks [(0xA, 0xA), (0xD, 0xD), (0x85, 0x85), (0x2028, 0x2029)])
  | "st" | "sterm" => some sentenceStops
  | "up" | "upper" => some sentenceUpper
  | _ => none

/-! ## Words -/

/-- The characters that belong to the one before them in a word. -/
def wordExtend : CharSet := CharSet.unionOf [graphemeExtend, spacingMark, emojiModifier]

/-- Katakana and the marks that stand among it. -/
def wordKatakana : CharSet :=
  katakana.set.union
    [(0x3031, 0x3035), (0x309B, 0x309C), (0x30A0, 0x30A0), (0x30FC, 0x30FC), (0xFF70, 0xFF70)]

/-- Hebrew letters. -/
def hebrewLetters : CharSet := hebrew.set.intersection otherLetter

/-- The scripts whose words are found by a dictionary only. -/
def unspacedScripts : List Script :=
  [ahom, hiragana, khmer, lao, myanmar, newTaiLue, taiLe, taiTham, taiViet, thai]

/-- Characters that count as letters in words. -/
def letterLike : CharSet :=
  [(0x2C2, 0x2C5), (0x2D2, 0x2D7), (0x2DE, 0x2DF), (0x2E5, 0x2EB), (0x2ED, 0x2ED), (0x2EF, 0x2FF),
   (0x55A, 0x55C), (0x55E, 0x55E), (0x58A, 0x58A), (0x5F3, 0x5F3), (0x70F, 0x70F),
   (0xA708, 0xA716), (0xA720, 0xA721), (0xA789, 0xA78A), (0xAB5B, 0xAB5B)]

/-- The letters of words that spaces part. -/
def wordLetter : CharSet :=
  (alphabetic.union letterLike).difference
    (CharSet.unionOf ([ideographic, wordKatakana, wordExtend, hebrewLetters]
      ++ unspacedScripts.map (·.set)))

/-- The class of word breaks with this name. -/
def wordBreak? (name : String) : Option CharSet :=
  match name with
  | "le" | "aletter" => some wordLetter
  | "cr" => some [(0xD, 0xD)]
  | "dq" | "doublequote" => some [(0x22, 0x22)]
  | "extend" => some wordExtend
  | "ex" | "extendnumlet" => some (connectorPunctuation.union [(0x202F, 0x202F)])
  | "fo" | "format" =>
    some (format.difference
      (CharSet.unionOf [[(0x200B, 0x200D)], prependedConcatenationMark, graphemeExtend]))
  | "hl" | "hebrewletter" => some hebrewLetters
  | "ka" | "katakana" => some wordKatakana
  | "lf" => some [(0xA, 0xA)]
  | "mb" | "midnumlet" =>
    some [(0x2E, 0x2E), (0x2018, 0x2019), (0x2024, 0x2024), (0xFE52, 0xFE52), (0xFF07, 0xFF07),
      (0xFF0E, 0xFF0E)]
  | "ml" | "midletter" =>
    some [(0x3A, 0x3A), (0xB7, 0xB7), (0x387, 0x387), (0x55F, 0x55F), (0x5F4, 0x5F4),
      (0x2027, 0x2027), (0xFE13, 0xFE13), (0xFE55, 0xFE55), (0xFF1A, 0xFF1A)]
  | "mn" | "midnum" =>
    some [(0x2C, 0x2C), (0x3B, 0x3B), (0x37E, 0x37E), (0x589, 0x589), (0x60C, 0x60D),
      (0x66C, 0x66C), (0x7F8, 0x7F8), (0x2044, 0x2044), (0xFE50, 0xFE50), (0xFE54, 0xFE54),
      (0xFF0C, 0xFF0C), (0xFF1B, 0xFF1B)]
  | "nl" | "newline" => some [(0xB, 0xC), (0x85, 0x85), (0x2028, 0x2029)]
  | "nu" | "numeric" => some (sentenceNumeric.difference [(0x66C, 0x66C)])
  | "ri" | "regionalindicator" => some regionalIndicator
  | "sq" | "singlequote" => some [(0x27, 0x27)]
  | "wsegspace" =>
    some (spaceSeparator.difference [(0xA0, 0xA0), (0x2007, 0x2007), (0x202F, 0x202F)])
  | "zwj" => some [(0x200D, 0x200D)]
  | _ => none

end LogLine.Unicode
