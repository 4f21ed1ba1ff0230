import Dealias.Unicode.Break
import Dealias.Unicode.CaseFold

/-!
# Case

Which characters have case, and which become another text where case is changed.  Most of the
latter are those with a variant that differs in case; the others become several characters.
-/

namespace Dealias.Unicode

open Text Category

/-- What has case. -/
def cased : CharSet := .unions [lowercase, uppercase, titlecaseLetter]

/-- What can stand between letters without a part in their case. -/
def caseIgnorable : CharSet :=
  .unions
    [nonspacingMark, enclosingMark, format, modifierLetter, modifierSymbol, midLetter,
     midNumberOrLetter, .char '\x27']

/-- What is not a text of small letters. -/
def changesWhenLowercased : CharSet :=
  ((uppercase.union titlecaseLetter).inter hasCaseVariant).union (.char '\u0130')

/-- What is not a text of capitals. -/
def changesWhenUppercased : CharSet :=
  ((lowercase.union titlecaseLetter).inter hasCaseVariant).union <|
    .table
      [(0x131, 0x131), (0x149, 0x149), (0x1F0, 0x1F0), (0x587, 0x587), (0x1E96, 0x1E9A),
       (0x1FB2, 0x1FB2), (0x1FB4, 0x1FB4), (0x1FB6, 0x1FB7), (0x1FC2, 0x1FC2), (0x1FC4, 0x1FC4),
       (0x1FC6, 0x1FC7), (0x1FD2, 0x1FD2), (0x1FD6, 0x1FD7), (0x1FE2, 0x1FE2), (0x1FE4, 0x1FE4),
       (0x1FE6, 0x1FE7), (0x1FF2, 0x1FF2), (0x1FF4, 0x1FF4), (0x1FF6, 0x1FF7), (0xFB00, 0xFB04),
       (0xFB13, 0xFB17)]
      [(0x1F50, 0x1F56)]

/-- What is not a text that begins with a capital. -/
def changesWhenTitlecased : CharSet :=
  (changesWhenUppercased.diff
    (titlecaseLetter.union ⟨[(0x10D0, 0x10FA), (0x10FD, 0x10FF)]⟩)).union
    ⟨[(0x1C4, 0x1C4), (0x1C7, 0x1C7), (0x1CA, 0x1CA), (0x1F1, 0x1F1)]⟩

/-- What is not the text that stands for all its variants. -/
def changesWhenCasefolded : CharSet :=
  (changesWhenLowercased.diff ⟨[(0x13A0, 0x13F5)]⟩).union
    ⟨[(0xB5, 0xB5), (0xDF, 0xDF), (0x149, 0x149), (0x17F, 0x17F), (0x345, 0x345), (0x3C2, 0x3C2),
      (0x3D0, 0x3D1), (0x3D5, 0x3D6), (0x3F0, 0x3F1), (0x3F5, 0x3F5), (0x587, 0x587),
      (0x13F8, 0x13FD), (0x1C80, 0x1C88), (0x1E9A, 0x1E9B), (0x1F80, 0x1F87), (0x1F90, 0x1F97),
      (0x1FA0, 0x1FA7), (0x1FB2, 0x1FB4), (0x1FB7, 0x1FB7), (0x1FC2, 0x1FC4), (0x1FC7, 0x1FC7),
      (0x1FF2, 0x1FF4), (0x1FF7, 0x1FF7), (0xAB70, 0xABBF), (0xFB00, 0xFB06), (0xFB13, 0xFB17)]⟩

/-- What is changed by some change of case. -/
def changesWhenCasemapped : CharSet :=
  .unions [changesWhenLowercased, changesWhenUppercased, changesWhenTitlecased]

end Dealias.Unicode
