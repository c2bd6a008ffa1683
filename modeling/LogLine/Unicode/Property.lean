/-
  Unicode/Property.lean --- binary properties.

  Most properties that programs ask for are derived from the general categories,
  the case classes and the tables: the rules of this file are those of the
  standard.
-/
import LogLine.Text.Blank
import LogLine.Unicode.CaseFold
import LogLine.Unicode.Category
import LogLine.Unicode.PropertyTable

set_option autoImplicit false

namespace LogLine.Unicode

/-! ## Letters and case -/

/-- Property `Lowercase`. -/
def lowercase : CharSet := lowercaseLetter.union otherLowercase

/-- Property `Uppercase`. -/
def uppercase : CharSet := uppercaseLetter.union otherUppercase

/-- Property `Alphabetic`. -/
def alphabetic : CharSet :=
  CharSet.unionOf [lowercase, uppercase, titlecaseLetter, modifierLetter, otherLetter,
    letterNumber, otherAlphabetic]

/-- Property `Math`. -/
def math : CharSet := mathSymbol.union otherMath

/-- Property `Cased`. -/
def cased : CharSet := CharSet.unionOf [lowercase, uppercase, titlecaseLetter]

/-- The characters within words at which a word may not break. -/
def wordJoints : CharSet :=
  [(0x27, 0x27), (0x2E, 0x2E), (0x3A, 0x3A), (0xB7, 0xB7), (0x387, 0x387), (0x55F, 0x55F),
   (0x5F4, 0x5F4), (0x2018, 0x2019), (0x2024, 0x2024), (0x2027, 0x2027), (0xFE13, 0xFE13),
   (0xFE52, 0xFE52), (0xFE55, 0xFE55), (0xFF07, 0xFF07), (0xFF0E, 0xFF0E), (0xFF1A, 0xFF1A)]

/-- Property `Case_Ignorable`. -/
def caseIgnorable : CharSet :=
  CharSet.unionOf [nonspacingMark, enclosingMark, format, modifierLetter, modifierSymbol,
    wordJoints]

/-- The characters that belong to some case class. -/
def caseMapped : CharSet := CharSet.normalize (caseClasses.flatten.map fun n => (n, n))

/-- Property `Changes_When_Lowercased`. -/
def changesWhenLowercased : CharSet :=
  CharSet.union [(0x130, 0x130)] ((uppercase.union titlecaseLetter).intersection caseMapped)

/-- The characters that change in upper case without being in a case class. -/
def unpairedUppercased : CharSet :=
  [(0x131, 0x131), (0x149, 0x149), (0x1F0, 0x1F0), (0x587, 0x587), (0x1E96, 0x1E9A),
   (0x1F50, 0x1F50), (0x1F52, 0x1F52), (0x1F54, 0x1F54), (0x1F56, 0x1F56), (0x1FB2, 0x1FB2),
   (0x1FB4, 0x1FB4), (0x1FB6, 0x1FB7), (0x1FC2, 0x1FC2), (0x1FC4, 0x1FC4), (0x1FC6, 0x1FC7),
   (0x1FD2, 0x1FD2), (0x1FD6, 0x1FD7), (0x1FE2, 0x1FE2), (0x1FE4, 0x1FE4), (0x1FE6, 0x1FE7),
   (0x1FF2, 0x1FF2), (0x1FF4, 0x1FF4), (0x1FF6, 0x1FF7), (0xFB00, 0xFB04), (0xFB13, 0xFB17)]

/-- Property `Changes_When_Uppercased`. -/
def changesWhenUppercased : CharSet :=
  (caseMapped.difference uppercase).union unpairedUppercased

/-- The characters that are upper case, but not title case. -/
def changesWhenTitlecasedOnly : CharSet :=
  [(0x1C4, 0x1C4), (0x1C7, 0x1C7), (0x1CA, 0x1CA), (0x1F1, 0x1F1)]

/-- The characters that are title case, but not upper case. -/
def changesWhenUppercasedOnly : CharSet :=
  [(0x1C5, 0x1C5), (0x1C8, 0x1C8), (0x1CB, 0x1CB), (0x1F2, 0x1F2), (0x10D0, 0x10FA),
   (0x10FD, 0x10FF), (0x1F88, 0x1F8F), (0x1F98, 0x1F9F), (0x1FA8, 0x1FAF), (0x1FBC, 0x1FBC),
   (0x1FCC, 0x1FCC), (0x1FFC, 0x1FFC)]

/-- Property `Changes_When_Titlecased`. -/
def changesWhenTitlecased : CharSet :=
  (changesWhenUppercased.difference changesWhenUppercasedOnly).union changesWhenTitlecasedOnly

/-- Property `Changes_When_Casemapped`. -/
def changesWhenCasemapped : CharSet :=
  CharSet.unionOf [changesWhenLowercased, changesWhenUppercased, changesWhenTitlecased]

/-- The lower-case characters that case folding changes. -/
def changesWhenCasefoldedOnly : CharSet :=
  [(0xB5, 0xB5), (0xDF, 0xDF), (0x149, 0x149), (0x17F, 0x17F), (0x345, 0x345), (0x3C2, 0x3C2),
   (0x3D0, 0x3D1), (0x3D5, 0x3D6), (0x3F0, 0x3F1), (0x3F5, 0x3F5), (0x587, 0x587), (0x13F8, 0x13FD),
   (0x1C80, 0x1C88), (0x1E9A, 0x1E9B), (0x1F80, 0x1F87), (0x1F90, 0x1F97), (0x1FA0, 0x1FA7),
   (0x1FB2, 0x1FB4), (0x1FB7, 0x1FB7), (0x1FC2, 0x1FC4), (0x1FC7, 0x1FC7), (0x1FF2, 0x1FF4),
   (0x1FF7, 0x1FF7), (0xAB70, 0xABBF), (0xFB00, 0xFB06), (0xFB13, 0xFB17)]

/-- The upper-case characters that case folding leaves as they are. -/
def changesWhenLowercasedOnly : CharSet :=
  [(0x13A0, 0x13F5)]

/-- Property `Changes_When_Casefolded`. -/
def changesWhenCasefolded : CharSet :=
  (changesWhenLowercased.difference changesWhenLowercasedOnly).union changesWhenCasefoldedOnly

/-! ## Identifiers -/

/-- Property `ID_Start`. -/
def idStart : CharSet :=
  (CharSet.unionOf [letter, letterNumber, otherIdStart]).difference
    (patternSyntax.union patternWhiteSpace)

/-- Property `ID_Continue`. -/
def idContinue : CharSet :=
  (CharSet.unionOf [idStart, nonspacingMark, spacingMark, decimalNumber, connectorPunctuation,
    otherIdContinue]).difference (patternSyntax.union patternWhiteSpace)

/-- The characters that begin identifiers, but may not do so in normalized text. -/
def notXidStart : CharSet :=
  [(0x37A, 0x37A), (0xE33, 0xE33), (0xEB3, 0xEB3), (0x309B, 0x309C), (0xFC5E, 0xFC63),
   (0xFDFA, 0xFDFB), (0xFE70, 0xFE70), (0xFE72, 0xFE72), (0xFE74, 0xFE74), (0xFE76, 0xFE76),
   (0xFE78, 0xFE78), (0xFE7A, 0xFE7A), (0xFE7C, 0xFE7C), (0xFE7E, 0xFE7E), (0xFF9E, 0xFF9F)]

/-- The characters of identifiers that normalized text may not have there. -/
def notXidContinue : CharSet :=
  [(0x37A, 0x37A), (0x309B, 0x309C), (0xFC5E, 0xFC63), (0xFDFA, 0xFDFB), (0xFE70, 0xFE70),
   (0xFE72, 0xFE72), (0xFE74, 0xFE74), (0xFE76, 0xFE76), (0xFE78, 0xFE78), (0xFE7A, 0xFE7A),
   (0xFE7C, 0xFE7C), (0xFE7E, 0xFE7E)]

/-- Property `XID_Start`. -/
def xidStart : CharSet := idStart.difference notXidStart

/-- Property `XID_Continue`. -/
def xidContinue : CharSet := idContinue.difference notXidContinue

/-! ## Display -/

/-- Property `Default_Ignorable_Code_Point`. -/
def defaultIgnorableCodePoint : CharSet :=
  (CharSet.unionOf [otherDefaultIgnorableCodePoint, format, variationSelector]).difference
    (CharSet.unionOf [Text.blanks, [(0xFFF9, 0xFFFB), (0x13430, 0x13440)],
      prependedConcatenationMark])

/-- Property `Grapheme_Extend`. -/
def graphemeExtend : CharSet :=
  CharSet.unionOf [enclosingMark, nonspacingMark, otherGraphemeExtend]

/-- Property `Grapheme_Base`. -/
def graphemeBase : CharSet :=
  CharSet.everything.difference
    (CharSet.unionOf [other, lineSeparator, paragraphSeparator, graphemeExtend])

/-! ## Names -/

/-- The properties that can be named. -/
inductive Property where
  | asciiHexDigit | alphabetic | bidiControl | bidiMirrored | caseIgnorable | cased
  | changesWhenCasefolded | changesWhenCasemapped | changesWhenLowercased | changesWhenTitlecased
  | changesWhenUppercased | dash | defaultIgnorableCodePoint | deprecated | diacritic | emoji
  | emojiComponent | emojiModifier | emojiModifierBase | emojiPresentation | extendedPictographic
  | extender | graphemeBase | graphemeExtend | graphemeLink | hexDigit | hyphen
  | idCompatMathContinue | idCompatMathStart | idContinue | idStart | idsBinaryOperator
  | idsTrinaryOperator | idsUnaryOperator | ideographic | joinControl | logicalOrderException
  | lowercase | math | modifierCombiningMark | noncharacterCodePoint | otherAlphabetic
  | otherDefaultIgnorableCodePoint | otherGraphemeExtend | otherIdContinue | otherIdStart
  | otherLowercase | otherMath | otherUppercase | patternSyntax | patternWhiteSpace
  | prependedConcatenationMark | quotationMark | radical | regionalIndicator | sentenceTerminal
  | softDotted | terminalPunctuation | unifiedIdeograph | uppercase | variationSelector
  | whiteSpace | xidContinue | xidStart
deriving DecidableEq, Repr, Inhabited

namespace Property

/-- The characters with a property. -/
def set : Property → CharSet
  | .asciiHexDigit => Unicode.asciiHexDigit
  | .alphabetic => Unicode.alphabetic
  | .bidiControl => Unicode.bidiControl
  | .bidiMirrored => Unicode.bidiMirrored
  | .caseIgnorable => Unicode.caseIgnorable
  | .cased => Unicode.cased
  | .changesWhenCasefolded => Unicode.changesWhenCasefolded
  | .changesWhenCasemapped => Unicode.changesWhenCasemapped
  | .changesWhenLowercased => Unicode.changesWhenLowercased
  | .changesWhenTitlecased => Unicode.changesWhenTitlecased
  | .changesWhenUppercased => Unicode.changesWhenUppercased
  | .dash => Unicode.dash
  | .defaultIgnorableCodePoint => Unicode.defaultIgnorableCodePoint
  | .deprecated => Unicode.deprecated
  | .diacritic => Unicode.diacritic
  | .emoji => Unicode.emoji
  | .emojiComponent => Unicode.emojiComponent
  | .emojiModifier => Unicode.emojiModifier
  | .emojiModifierBase => Unicode.emojiModifierBase
  | .emojiPresentation => Unicode.emojiPresentation
  | .extendedPictographic => Unicode.extendedPictographic
  | .extender => Unicode.extender
  | .graphemeBase => Unicode.graphemeBase
  | .graphemeExtend => Unicode.graphemeExtend
  | .graphemeLink => Unicode.graphemeLink
  | .hexDigit => Unicode.hexDigit
  | .hyphen => Unicode.hyphen
  | .idCompatMathContinue => Unicode.idCompatMathContinue
  | .idCompatMathStart => Unicode.idCompatMathStart
  | .idContinue => Unicode.idContinue
  | .idStart => Unicode.idStart
  | .idsBinaryOperator => Unicode.idsBinaryOperator
  | .idsTrinaryOperator => Unicode.idsTrinaryOperator
  | .idsUnaryOperator => Unicode.idsUnaryOperator
  | .ideographic => Unicode.ideographic
  | .joinControl => Unicode.joinControl
  | .logicalOrderException => Unicode.logicalOrderException
  | .lowercase => Unicode.lowercase
  | .math => Unicode.math
  | .modifierCombiningMark => Unicode.modifierCombiningMark
  | .noncharacterCodePoint => Unicode.noncharacterCodePoint
  | .otherAlphabetic => Unicode.otherAlphabetic
  | .otherDefaultIgnorableCodePoint => Unicode.otherDefaultIgnorableCodePoint
  | .otherGraphemeExtend => Unicode.otherGraphemeExtend
  | .otherIdContinue => Unicode.otherIdContinue
  | .otherIdStart => Unicode.otherIdStart
  | .otherLowercase => Unicode.otherLowercase
  | .otherMath => Unicode.otherMath
  | .otherUppercase => Unicode.otherUppercase
  | .patternSyntax => Unicode.patternSyntax
  | .patternWhiteSpace => Unicode.patternWhiteSpace
  | .prependedConcatenationMark => Unicode.prependedConcatenationMark
  | .quotationMark => Unicode.quotationMark
  | .radical => Unicode.radical
  | .regionalIndicator => Unicode.regionalIndicator
  | .sentenceTerminal => Unicode.sentenceTerminal
  | .softDotted => Unicode.softDotted
  | .terminalPunctuation => Unicode.terminalPunctuation
  | .unifiedIdeograph => Unicode.unifiedIdeograph
  | .uppercase => Unicode.uppercase
  | .variationSelector => Unicode.variationSelector
  | .whiteSpace => Text.blanks
  | .xidContinue => Unicode.xidContinue
  | .xidStart => Unicode.xidStart

/-- The names of the properties, without case and punctuation. -/
def names : List (String × Property) :=
  [("ahex", .asciiHexDigit), ("asciihexdigit", .asciiHexDigit), ("alpha", .alphabetic),
   ("alphabetic", .alphabetic), ("bidic", .bidiControl), ("bidicontrol", .bidiControl),
   ("bidim", .bidiMirrored), ("bidimirrored", .bidiMirrored), ("caseignorable", .caseIgnorable),
   ("ci", .caseIgnorable), ("cased", .cased), ("changeswhencasefolded", .changesWhenCasefolded),
   ("cwcf", .changesWhenCasefolded), ("changeswhencasemapped", .changesWhenCasemapped),
   ("cwcm", .changesWhenCasemapped), ("changeswhenlowercased", .changesWhenLowercased),
   ("cwl", .changesWhenLowercased), ("changeswhentitlecased", .changesWhenTitlecased),
   ("cwt", .changesWhenTitlecased), ("changeswhenuppercased", .changesWhenUppercased),
   ("cwu", .changesWhenUppercased), ("dash", .dash),
   ("defaultignorablecodepoint", .defaultIgnorableCodePoint), ("di", .defaultIgnorableCodePoint),
   ("dep", .deprecated), ("deprecated", .deprecated), ("dia", .diacritic),
   ("diacritic", .diacritic), ("emoji", .emoji), ("ecomp", .emojiComponent),
   ("emojicomponent", .emojiComponent), ("emod", .emojiModifier), ("emojimodifier", .emojiModifier),
   ("ebase", .emojiModifierBase), ("emojimodifierbase", .emojiModifierBase),
   ("emojipresentation", .emojiPresentation), ("epres", .emojiPresentation),
   ("extendedpictographic", .extendedPictographic), ("extpict", .extendedPictographic),
   ("ext", .extender), ("extender", .extender), ("graphemebase", .graphemeBase),
   ("grbase", .graphemeBase), ("graphemeextend", .graphemeExtend), ("grext", .graphemeExtend),
   ("graphemelink", .graphemeLink), ("grlink", .graphemeLink), ("hex", .hexDigit),
   ("hexdigit", .hexDigit), ("hyphen", .hyphen), ("idcompatmathcontinue", .idCompatMathContinue),
   ("idcompatmathstart", .idCompatMathStart), ("idc", .idContinue), ("idcontinue", .idContinue),
   ("ids", .idStart), ("idstart", .idStart), ("idsb", .idsBinaryOperator),
   ("idsbinaryoperator", .idsBinaryOperator), ("idst", .idsTrinaryOperator),
   ("idstrinaryoperator", .idsTrinaryOperator), ("idsu", .idsUnaryOperator),
   ("idsunaryoperator", .idsUnaryOperator), ("ideo", .ideographic), ("ideographic", .ideographic),
   ("joinc", .joinControl), ("joincontrol", .joinControl), ("loe", .logicalOrderException),
   ("logicalorderexception", .logicalOrderException), ("lower", .lowercase),
   ("lowercase", .lowercase), ("math", .math), ("mcm", .modifierCombiningMark),
   ("modifiercombiningmark", .modifierCombiningMark), ("nchar", .noncharacterCodePoint),
   ("noncharactercodepoint", .noncharacterCodePoint), ("oalpha", .otherAlphabetic),
   ("otheralphabetic", .otherAlphabetic), ("odi", .otherDefaultIgnorableCodePoint),
   ("otherdefaultignorablecodepoint", .otherDefaultIgnorableCodePoint),
   ("ogrext", .otherGraphemeExtend), ("othergraphemeextend", .otherGraphemeExtend),
   ("oidc", .otherIdContinue), ("otheridcontinue", .otherIdContinue), ("oids", .otherIdStart),
   ("otheridstart", .otherIdStart), ("olower", .otherLowercase),
   ("otherlowercase", .otherLowercase), ("omath", .otherMath), ("othermath", .otherMath),
   ("otheruppercase", .otherUppercase), ("oupper", .otherUppercase), ("patsyn", .patternSyntax),
   ("patternsyntax", .patternSyntax), ("patternwhitespace", .patternWhiteSpace),
   ("patws", .patternWhiteSpace), ("pcm", .prependedConcatenationMark),
   ("prependedconcatenationmark", .prependedConcatenationMark), ("qmark", .quotationMark),
   ("quotationmark", .quotationMark), ("radical", .radical),
   ("regionalindicator", .regionalIndicator), ("ri", .regionalIndicator),
   ("sentenceterminal", .sentenceTerminal), ("sterm", .sentenceTerminal), ("sd", .softDotted),
   ("softdotted", .softDotted), ("term", .terminalPunctuation),
   ("terminalpunctuation", .terminalPunctuation), ("uideo", .unifiedIdeograph),
   ("unifiedideograph", .unifiedIdeograph), ("upper", .uppercase), ("uppercase", .uppercase),
   ("variationselector", .variationSelector), ("vs", .variationSelector), ("space", .whiteSpace),
   ("whitespace", .whiteSpace), ("wspace", .whiteSpace), ("xidc", .xidContinue),
   ("xidcontinue", .xidContinue), ("xids", .xidStart), ("xidstart", .xidStart)]

/-- The property with this name. -/
def ofName? (name : String) : Option Property := (names.find? (·.1 == name)).map (·.2)

end Property

end LogLine.Unicode
