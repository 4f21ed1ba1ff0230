import Dealias.Text.Blank
import Dealias.Unicode.Category
import Dealias.Unicode.Listed

/-!
# Letters, words and identifiers

Properties that say what words and identifiers are made of.  Each is put together from categories
and listed properties; so are all of Unicode 16, apart from what `laterLetter` and `laterNumber`
add.
-/

namespace Dealias.Unicode

open Text Category

/-- White space. -/
def whiteSpace : CharSet := ⟨blankRanges⟩

/-- Small letters and signs. -/
def lowercase : CharSet := lowercaseLetter.union otherLowercase

/-- Capital letters and signs. -/
def uppercase : CharSet := uppercaseLetter.union otherUppercase

/-- What counts as a letter of an alphabet. -/
def alphabetic : CharSet :=
  .unions
    [lowercase, uppercase, titlecaseLetter, modifierLetter, otherLetter, letterNumber,
     otherAlphabetic]

/-- What words are made of: letters, marks, decimal digits, and punctuation and controls that
connect. -/
def word : CharSet :=
  .unions [alphabetic, mark, decimalNumber, connectorPunctuation, joinControl]

/-- Signs of mathematics. -/
def math : CharSet := mathSymbol.union otherMath

/-- What has a meaning of its own in patterns. -/
def patternReserved : CharSet := patternSyntax.union patternWhiteSpace

/-- What identifiers begin with. -/
def idStart : CharSet :=
  (CharSet.unions [letter, letterNumber, otherIdStart]).diff patternReserved

/-- What identifiers contain. -/
def idContinue : CharSet :=
  (CharSet.unions
    [idStart, nonspacingMark, spacingMark, decimalNumber, connectorPunctuation,
     otherIdContinue]).diff patternReserved

/-- Letters that fall into several characters of which the first begins no identifier. -/
def unstableStart : CharSet :=
  .table
    [(0x37A, 0x37A), (0xE33, 0xE33), (0xEB3, 0xEB3), (0x309B, 0x309C), (0xFC5E, 0xFC63),
     (0xFDFA, 0xFDFB), (0xFF9E, 0xFF9F)]
    [(0xFE70, 0xFE7E)]

/-- Letters that fall into several characters of which one is in no identifier. -/
def unstableContinue : CharSet :=
  .table [(0x37A, 0x37A), (0x309B, 0x309C), (0xFC5E, 0xFC63), (0xFDFA, 0xFDFB)] [(0xFE70, 0xFE7E)]

/-- What identifiers begin with, however their letters are composed. -/
def xidStart : CharSet := idStart.diff unstableStart

/-- What identifiers contain, however their letters are composed. -/
def xidContinue : CharSet := idContinue.diff unstableContinue

/-- What Unicode 17 adds to the letters of alphabets. -/
def laterLetter : CharSet :=
  .table
    [(0x88F, 0x88F), (0xC5C, 0xC5C), (0xCDC, 0xCDC), (0xA7CE, 0xA7CF), (0xA7D2, 0xA7D2),
     (0xA7D4, 0xA7D4), (0xA7F1, 0xA7F1), (0x10940, 0x10959), (0x10EC5, 0x10EC7),
     (0x10EFA, 0x10EFB), (0x11B60, 0x11B67), (0x11DB0, 0x11DDB), (0x16EA0, 0x16EB8),
     (0x16EBB, 0x16ED3), (0x16FF2, 0x16FF6), (0x187F8, 0x187FF), (0x18D09, 0x18D1E),
     (0x18D80, 0x18DF2), (0x1E6C0, 0x1E6DE), (0x1E6E0, 0x1E6F5), (0x1E6FE, 0x1E6FF),
     (0x2B73A, 0x2B73F), (0x2CEA2, 0x2CEAD), (0x323B0, 0x33479)]
    []

/-- What Unicode 17 adds to the numbers. -/
def laterNumber : CharSet := ⟨[(0x11DE0, 0x11DE9), (0x16FF4, 0x16FF6)]⟩

end Dealias.Unicode
