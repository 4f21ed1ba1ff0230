import Dealias.Unicode.Letter
import Dealias.Unicode.Script

/-!
# Where texts are divided

Texts are divided into characters as a reader sees them, into words, and into sentences.  Three
properties say what part a character takes in that; each of their values is a set here.
-/

namespace Dealias.Unicode

open Text Category

/-- What belongs to the character before. -/
def graphemeExtend : CharSet :=
  .unions [enclosingMark, nonspacingMark, otherGraphemeExtend]

/-- What others can belong to. -/
def graphemeBase : CharSet :=
  (CharSet.unions
    [control, format, privateUse, unassigned, lineSeparator, paragraphSeparator,
     graphemeExtend]).others

/-- What is not shown where it is not known. -/
def defaultIgnorableCodePoint : CharSet :=
  (CharSet.unions [otherDefaultIgnorableCodePoint, format, variationSelector]).diff
    (.unions
      [whiteSpace, prependedConcatenationMark, ⟨[(0xFFF9, 0xFFFB), (0x13430, 0x13440)]⟩])

/-- The syllables of Hangul with a last consonant, and without: 588 begin with each consonant, and
of these every twenty-eighth ends with a vowel. -/
def openSyllable : CharSet :=
  .ofRanges ((List.range 399).map fun i => (0xAC00 + 28 * i, 0xAC00 + 28 * i))

/-- A return and a newline. -/
def lineEnds : CharSet := .ofList ['\r', '\n']

/-- What joins two characters. -/
def zeroWidthJoiner : CharSet := .char '\u200D'

/-- What keeps two characters apart. -/
def zeroWidthNonJoiner : CharSet := .char '\u200C'

/-- Values for the division into characters. -/
def graphemeBreaks : List Named :=
  let extend := (graphemeExtend.union emojiModifier).diff zeroWidthJoiner
  let controls :=
    (CharSet.unions
      [lineSeparator, paragraphSeparator, control, format,
       unassigned.inter defaultIgnorableCodePoint]).diff
      (.unions
        [lineEnds, zeroWidthJoiner, zeroWidthNonJoiner, prependedConcatenationMark, extend])
  let spacing :=
    ((spacingMark.diff extend).union ⟨[(0xE33, 0xE33), (0xEB3, 0xEB3)]⟩).diff
      ⟨[(0x102B, 0x102C), (0x1038, 0x1038), (0x1062, 0x1064), (0x1067, 0x106D), (0x1083, 0x1083),
        (0x1087, 0x108C), (0x108F, 0x108F), (0x109A, 0x109C), (0x1A61, 0x1A61), (0x1A63, 0x1A64),
        (0xAA7B, 0xAA7B), (0xAA7D, 0xAA7D), (0x11720, 0x11721)]⟩
  let prepended :=
    prependedConcatenationMark.union
      ⟨[(0xD4E, 0xD4E), (0x111C2, 0x111C3), (0x113D1, 0x113D1), (0x1193F, 0x1193F),
        (0x11941, 0x11941), (0x11A3A, 0x11A3A), (0x11A84, 0x11A89), (0x11D46, 0x11D46),
        (0x11F02, 0x11F02)]⟩
  [⟨["CR"], .char '\r'⟩, ⟨["LF"], .char '\n'⟩, ⟨["Control", "CN"], controls⟩,
   ⟨["Extend", "EX"], extend⟩, ⟨["ZWJ"], zeroWidthJoiner⟩,
   ⟨["Regional_Indicator", "RI"], regionalIndicator⟩, ⟨["Prepend", "PP"], prepended⟩,
   ⟨["SpacingMark", "SM"], spacing⟩, ⟨["L"], ⟨[(0x1100, 0x115F), (0xA960, 0xA97C)]⟩⟩,
   ⟨["V"], ⟨[(0x1160, 0x11A7), (0xD7B0, 0xD7C6), (0x16D63, 0x16D63), (0x16D67, 0x16D6A)]⟩⟩,
   ⟨["T"], ⟨[(0x11A8, 0x11FF), (0xD7CB, 0xD7FB)]⟩⟩, ⟨["LV"], openSyllable⟩,
   ⟨["LVT"], (CharSet.diff ⟨[(0xAC00, 0xD7A3)]⟩ openSyllable)⟩]

/-- Punctuation inside of words. -/
def midLetter : CharSet :=
  ⟨[(0x3A, 0x3A), (0xB7, 0xB7), (0x387, 0x387), (0x55F, 0x55F), (0x5F4, 0x5F4), (0x2027, 0x2027),
    (0xFE13, 0xFE13), (0xFE55, 0xFE55), (0xFF1A, 0xFF1A)]⟩

/-- Punctuation inside of words and numbers. -/
def midNumberOrLetter : CharSet :=
  ⟨[(0x2E, 0x2E), (0x2018, 0x2019), (0x2024, 0x2024), (0xFE52, 0xFE52), (0xFF07, 0xFF07),
    (0xFF0E, 0xFF0E)]⟩

/-- The characters of some scripts. -/
def ofScripts (names : List String) : CharSet :=
  .unions (names.filterMap fun name => Named.find? Script.all name.toList)

/-- Marks in front of numbers, and signs inside of them that are no digits. -/
def numericSigns : CharSet :=
  .ofRanges
    [(0x600, 0x605), (0x66B, 0x66B), (0x6DD, 0x6DD), (0x890, 0x891), (0x8E2, 0x8E2),
     (0x19DA, 0x19DA), (0x110BD, 0x110BD), (0x110CD, 0x110CD)]

/-- Values for the division into words. -/
def wordBreaks : List Named :=
  let extend := (CharSet.unions [graphemeExtend, spacingMark, emojiModifier]).diff zeroWidthJoiner
  let numeric := decimalNumber.union numericSigns
  let katakana :=
    (ofScripts ["Katakana"]).union
      ⟨[(0x3031, 0x3035), (0x309B, 0x309C), (0x30A0, 0x30A0), (0x30FC, 0x30FC), (0xFF70, 0xFF70)]⟩
  let hebrew := (ofScripts ["Hebrew"]).inter otherLetter
  let joined :=
    .unions
      [ideographic, katakana, hebrew, extend, numeric,
       ofScripts
        ["Thai", "Lao", "Hiragana", "Myanmar", "Khmer", "Tai_Le", "New_Tai_Lue", "Tai_Tham",
         "Tai_Viet", "Ahom"]]
  let letters :=
    (alphabetic.diff joined).union
      ⟨[(0x2C2, 0x2C5), (0x2D2, 0x2D7), (0x2DE, 0x2DF), (0x2E5, 0x2EB), (0x2ED, 0x2ED),
        (0x2EF, 0x2FF), (0x55A, 0x55C), (0x55E, 0x55E), (0x58A, 0x58A), (0x5F3, 0x5F3),
        (0x70F, 0x70F), (0xA708, 0xA716), (0xA720, 0xA721), (0xA789, 0xA78A), (0xAB5B, 0xAB5B)]⟩
  let formats :=
    format.diff (.unions [.char '\u200B', zeroWidthNonJoiner, zeroWidthJoiner, extend, numeric,
      letters])
  [⟨["CR"], .char '\r'⟩, ⟨["LF"], .char '\n'⟩,
   ⟨["Newline", "NL"], ⟨[(0xB, 0xC), (0x85, 0x85), (0x2028, 0x2029)]⟩⟩,
   ⟨["Extend"], extend⟩, ⟨["ZWJ"], zeroWidthJoiner⟩, ⟨["Format", "FO"], formats⟩,
   ⟨["Katakana", "KA"], katakana⟩, ⟨["Hebrew_Letter", "HL"], hebrew⟩,
   ⟨["ALetter", "LE"], letters⟩, ⟨["Single_Quote", "SQ"], .char '\x27'⟩,
   ⟨["Double_Quote", "DQ"], .char '\x22'⟩, ⟨["MidNumLet", "MB"], midNumberOrLetter⟩,
   ⟨["MidLetter", "ML"], midLetter⟩,
   ⟨["MidNum", "MN"],
    ⟨[(0x2C, 0x2C), (0x3B, 0x3B), (0x37E, 0x37E), (0x589, 0x589), (0x60C, 0x60D), (0x66C, 0x66C),
      (0x7F8, 0x7F8), (0x2044, 0x2044), (0xFE50, 0xFE50), (0xFE54, 0xFE54), (0xFF0C, 0xFF0C),
      (0xFF1B, 0xFF1B)]⟩⟩,
   ⟨["Numeric", "NU"], numeric⟩,
   ⟨["ExtendNumLet", "EX"], connectorPunctuation.union (.char '\u202F')⟩,
   ⟨["Regional_Indicator", "RI"], regionalIndicator⟩,
   ⟨["WSegSpace"], spaceSeparator.diff ⟨[(0xA0, 0xA0), (0x2007, 0x2007), (0x202F, 0x202F)]⟩⟩]

/-- Values for the division into sentences. -/
def sentenceBreaks : List Named :=
  let extend := .unions [graphemeExtend, spacingMark, zeroWidthJoiner]
  let separators : CharSet := ⟨[(0x85, 0x85), (0x2028, 0x2029)]⟩
  let numeric := .unions [decimalNumber, numericSigns, .char '\u066C']
  let georgian : CharSet := ⟨[(0x10D0, 0x10FA), (0x10FD, 0x10FF)]⟩
  let georgianCapital : CharSet := ⟨[(0x1C90, 0x1CBA), (0x1CBD, 0x1CBF)]⟩
  let lower := lowercase.diff (graphemeExtend.union georgian)
  let upper := (titlecaseLetter.union uppercase).diff georgianCapital
  let geresh : CharSet := .char '\u05F3'
  let dots : CharSet := ⟨[(0x2E, 0x2E), (0x2024, 0x2024), (0xFE52, 0xFE52), (0xFF0E, 0xFF0E)]⟩
  let stops := sentenceTerminal.diff dots
  [⟨["CR"], .char '\r'⟩, ⟨["LF"], .char '\n'⟩, ⟨["Extend", "EX"], extend⟩,
   ⟨["Sep", "SE"], separators⟩,
   ⟨["Format", "FO"],
    format.diff (.unions [zeroWidthNonJoiner, zeroWidthJoiner, extend, numeric])⟩,
   ⟨["Sp"], whiteSpace.diff (separators.union lineEnds)⟩, ⟨["Lower", "LO"], lower⟩,
   ⟨["Upper", "UP"], upper⟩,
   ⟨["OLetter", "LE"], (alphabetic.union geresh).diff (.unions [lower, upper, extend])⟩,
   ⟨["Numeric", "NU"], numeric⟩, ⟨["ATerm", "AT"], dots⟩, ⟨["STerm", "ST"], stops⟩,
   ⟨["SContinue", "SC"],
    ⟨[(0x2C, 0x2D), (0x3A, 0x3B), (0x37E, 0x37E), (0x55D, 0x55D), (0x60C, 0x60D), (0x7F8, 0x7F8),
      (0x1802, 0x1802), (0x1808, 0x1808), (0x2013, 0x2014), (0x3001, 0x3001), (0xFE10, 0xFE11),
      (0xFE13, 0xFE14), (0xFE31, 0xFE32), (0xFE50, 0xFE51), (0xFE54, 0xFE55), (0xFE58, 0xFE58),
      (0xFE63, 0xFE63), (0xFF0C, 0xFF0D), (0xFF1A, 0xFF1B), (0xFF64, 0xFF64)]⟩⟩,
   ⟨["Close", "CL"],
    (CharSet.unions
      [openPunctuation, closePunctuation, initialPunctuation, finalPunctuation,
       ⟨[(0x22, 0x22), (0x27, 0x27), (0x275B, 0x2760), (0x2E00, 0x2E0D), (0x1F676, 0x1F678)]⟩]).diff
      (.unions [geresh, dots, stops])⟩]

end Dealias.Unicode
