import GcodeTemplate.Unicode.Property
import GcodeTemplate.Unicode.Script

/-!
# Classes for the division of text

The rules that divide a text into graphemes, into words and into sentences look
at classes of characters.  Each division has classes of its own, and a character
belongs to at most one class of a division.
-/

namespace GcodeTemplate.Unicode

/-! ## Parts of classes -/

/-- The line feed. -/
def lineFeed : CharSet :=
  .singleton '\n'

/-- The carriage return. -/
def carriageReturn : CharSet :=
  .singleton '\r'

/-- The character that joins its neighbours. -/
def zeroWidthJoiner : CharSet :=
  .singleton '\u200D'

/-- The characters that spell out the names of flags. -/
def tag : CharSet :=
  ⟨[⟨0xE0020, 0xE007F⟩]⟩

/-- The format characters that neither enclose digits nor spell out names. -/
def plainFormat : CharSet :=
  (ofCategories ["Cf"]).diff (prependedConcatenationMark.union tag)

/-- The marks that take a place of their own. -/
def spacingMark : CharSet :=
  ofCategories ["Mc"]

/-- The marks, and all else that extends a grapheme. -/
def anyExtend : CharSet :=
  graphemeExtend.union spacingMark

/-! ## Graphemes -/

/-- The syllables of Hangul that end with a vowel. -/
def openSyllable : CharSet :=
  ⟨(List.range 399).map fun index => ⟨0xAC00 + 28 * index, 0xAC00 + 28 * index⟩⟩

/-- The syllables of Hangul that end with a consonant. -/
def closedSyllable : CharSet :=
  ⟨(List.range 399).map fun index => ⟨0xAC01 + 28 * index, 0xAC1B + 28 * index⟩⟩

/-- Vowels that are written after their consonant but are no marks. -/
def vowelAfterConsonant : CharSet :=
  decode ["2sz 1 3j 1"]

/-- Spacing marks that may stand apart from the character in front. -/
def separateMark : CharSet :=
  decode ["36z 2 b 1 15 3 2 7 l 1 3 6 2 1 a 3 1xg 1 1 2 sgm 1 1 1 lgi 2"]

/-- The classes of characters for the division into graphemes. -/
def graphemeBreaks : List NamedSet := [
  ⟨["CR"], carriageReturn⟩,
  ⟨["LF"], lineFeed⟩,
  ⟨["CN", "Control"],
    (CharSet.unions [ofCategories ["Cc", "Zl", "Zp"], plainFormat,
      (ofCategories ["Cn"]).inter defaultIgnorable]).diff
        (.unions [carriageReturn, lineFeed, joinControl])⟩,
  ⟨["EX", "Extend"], graphemeExtend.union emojiModifier⟩,
  ⟨["ZWJ"], zeroWidthJoiner⟩,
  ⟨["RI", "Regional_Indicator"], regionalIndicator⟩,
  ⟨["PP", "Prepend"], decode [
      "16o 6 5z 1 1d 1 ao 2 28 1 vf 1 1f8u 1 f 1 6s 2 el 1 12l 1 1 1 6w 1 21 6 jg 1 cb 1"]⟩,
  ⟨["SM", "SpacingMark"],
    (spacingMark.diff (graphemeExtend.union separateMark)).union vowelAfterConsonant⟩,
  ⟨["L"], decode ["3cw 2o u0w t"]⟩,
  ⟨["V"], decode ["3fk 20 1348 n tjw 1 3 4"]⟩,
  ⟨["T"], decode ["3hk 2g 132j 1d"]⟩,
  ⟨["LV"], openSyllable⟩,
  ⟨["LVT"], closedSyllable⟩]

/-- The characters of a class for the division into graphemes. -/
def graphemeBreak? (name : String) : Option CharSet :=
  NamedSet.find? name graphemeBreaks

/-! ## Words -/

/-- The characters that extend the character in front, for the division into words. -/
def wordExtend : CharSet :=
  (anyExtend.union emojiModifier).diff zeroWidthJoiner

/-- The characters of words in Katakana. -/
def katakana : CharSet :=
  .unions [ofScript "Kana", decode ["9ip 5 2t 2 3 1 2j 1 14s3 1"]]

/-- The letters of Hebrew. -/
def hebrewLetter : CharSet :=
  (ofScript "Hebr").inter (ofCategories ["Lo"])

/-- Letters of words that are not alphabetic. -/
def letterLike : CharSet :=
  decode ["jm 4 c 6 6 2 5 7 1 1 1 h gq 3 1 1 17 1 2w 1 7v 1 vlk f 9 2 2v 2 r4 1"]

/-- Letters of scripts that are written without blanks between the words. -/
def unspacedLetter : CharSet :=
  decode [
    "2rl 1c 1 2 c 7 1m 2 1 1 1 5 1 o 1 1 1 a 1 2 9 1 2 5 1 1 l 4 80 17 k 1 g 6 4 4 3 1 3 2 7 3 4",
    "d c 1 1dd 1g z 1 4 1 ab u 2 5 b 18 4 q 2e 1h 2a 1 sag 5 1 a a 5 2p n 3 1 3 1e 1 1 3 2 2 5 2",
    "1 1 1 o 3 lcy r 11 7"]

/-- The signs that enclose digits, and those that are parts of numbers. -/
def numberSign : CharSet :=
  decode ["16o 6 2t 1 35 1 c2 2 28 1 3cn 1 1crm 1 f 1"]

/-- The letters of words. -/
def wordLetter : CharSet :=
  (alphabetic.union letterLike).diff
    (.unions [ideographic, katakana, ofScript "Hira", wordExtend, hebrewLetter, unspacedLetter])

/-- The classes of characters for the division into words. -/
def wordBreaks : List NamedSet := [
  ⟨["CR"], carriageReturn⟩,
  ⟨["LF"], lineFeed⟩,
  ⟨["NL", "Newline"], ⟨[⟨0x0B, 0x0C⟩, ⟨0x85, 0x85⟩, ⟨0x2028, 0x2029⟩]⟩⟩,
  ⟨["Extend"], wordExtend⟩,
  ⟨["ZWJ"], zeroWidthJoiner⟩,
  ⟨["FO", "Format"], plainFormat.diff (joinControl.union (.singleton '\u200B'))⟩,
  ⟨["RI", "Regional_Indicator"], regionalIndicator⟩,
  ⟨["KA", "Katakana"], katakana⟩,
  ⟨["HL", "Hebrew_Letter"], hebrewLetter⟩,
  ⟨["LE", "ALetter"], wordLetter⟩,
  ⟨["SQ", "Single_Quote"], ⟨[⟨0x27, 0x27⟩]⟩⟩,
  ⟨["DQ", "Double_Quote"], ⟨[⟨0x22, 0x22⟩]⟩⟩,
  ⟨["MB", "MidNumLet"], decode ["1a 1 6ax 2 a 1 17vx 1 50 1 6 1"]⟩,
  ⟨["ML", "MidLetter"], decode ["1m 1 3g 1 jz 1 d3 1 44 1 56a 1 17u3 1 1t 1 5g 1"]⟩,
  ⟨["MN", "MidNum"], decode ["18 1 e 1 n6 1 ei 1 3m 2 2m 1 az 1 4sr 1 17uz 1 3 1 53 1 e 1"]⟩,
  ⟨["NU", "Numeric"], digit.union numberSign⟩,
  ⟨["EX", "ExtendNumLet"], (ofCategories ["Pc"]).union (.singleton '\u202F')⟩,
  ⟨["WSegSpace"],
    (ofCategories ["Zs"]).diff ⟨[⟨0xA0, 0xA0⟩, ⟨0x2007, 0x2007⟩, ⟨0x202F, 0x202F⟩]⟩⟩]

/-- The characters of a class for the division into words. -/
def wordBreak? (name : String) : Option CharSet :=
  NamedSet.find? name wordBreaks

/-! ## Sentences -/

/-- The characters that extend the character in front, for the division into sentences. -/
def sentenceExtend : CharSet :=
  anyExtend.union zeroWidthJoiner

/-- The characters between paragraphs. -/
def paragraphSeparator : CharSet :=
  ⟨[⟨0x85, 0x85⟩, ⟨0x2028, 0x2029⟩]⟩

/-- The full stops, which also stand inside of sentences. -/
def fullStop : CharSet :=
  decode ["1a 1 6b9 1 17vx 1 57 1"]

/-- The letters of Georgian that are not used at the start of a sentence. -/
def mkhedruli : CharSet :=
  ⟨[⟨0x10D0, 0x10FA⟩, ⟨0x10FD, 0x10FF⟩]⟩

/-- The letters of Georgian for texts in upper case only. -/
def mtavruli : CharSet :=
  ⟨[⟨0x1C90, 0x1CBA⟩, ⟨0x1CBD, 0x1CBF⟩]⟩

/-- The lower-case letters of sentences. -/
def sentenceLower : CharSet :=
  lowercase.diff (graphemeExtend.union mkhedruli)

/-- The upper-case letters of sentences. -/
def sentenceUpper : CharSet :=
  (uppercase.union titlecase).diff mtavruli

/-- Marks of quotation that are no punctuation in pairs. -/
def otherClose : CharSet :=
  decode ["y 1 4 1 7qr 6 1b3 2 4 3 2 1 2i5m 3"]

/-- The classes of characters for the division into sentences. -/
def sentenceBreaks : List NamedSet := [
  ⟨["CR"], carriageReturn⟩,
  ⟨["LF"], lineFeed⟩,
  ⟨["EX", "Extend"], sentenceExtend⟩,
  ⟨["SE", "Sep"], paragraphSeparator⟩,
  ⟨["FO", "Format"], (plainFormat.diff joinControl).union (.singleton '\u070F')⟩,
  ⟨["Sp"], whiteSpace.diff (.unions [paragraphSeparator, carriageReturn, lineFeed])⟩,
  ⟨["LO", "Lower"], sentenceLower⟩,
  ⟨["UP", "Upper"], sentenceUpper⟩,
  ⟨["LE", "OLetter"],
    (alphabetic.union (.singleton '\u05F3')).diff
      (.unions [sentenceLower, sentenceUpper, sentenceExtend])⟩,
  ⟨["NU", "Numeric"], .unions [digit, numberSign, .singleton '\u066C']⟩,
  ⟨["AT", "ATerm"], fullStop⟩,
  ⟨["SC", "SContinue"], decode [
      "18 2 c 2 n6 1 da 1 4u 2 dm 1 361 1 5 1 1l6 2 358 1 14pa 2 1 2 s 2 t 2 2 2 2 1 a 1 4o 2 c",
      "2 20 1"]⟩,
  ⟨["ST", "STerm"], sentenceTerminal.diff fullStop⟩,
  ⟨["CL", "Close"], (ofCategories ["Ps", "Pe", "Pi", "Pf"]).union otherClose⟩]

/-- The characters of a class for the division into sentences. -/
def sentenceBreak? (name : String) : Option CharSet :=
  NamedSet.find? name sentenceBreaks

end GcodeTemplate.Unicode
