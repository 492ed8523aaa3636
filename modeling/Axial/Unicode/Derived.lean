import Axial.Unicode.Category
import Axial.Unicode.Folding
import Axial.Unicode.Property

/-!
# Properties that follow from others

* `derivedProperties` : the properties by name.
* `property?` : a property of either kind by its name.
* `word` : the characters of words.
-/

namespace Axial

namespace Unicode

/-! ### Letters and case -/

/-- Letters, and what counts as a letter. -/
def alphabetic : CharSet :=
  .unions [letter, letterNumber, otherAlphabetic]

/-- Lower-case characters. -/
def lowercase : CharSet :=
  lowerLetter.union otherLowercase

/-- Upper-case characters. -/
def uppercase : CharSet :=
  upperLetter.union otherUppercase

/-- Characters with case. -/
def cased : CharSet :=
  .unions [lowercase, uppercase, titleLetter]

/-- Colons and dots that stand between letters. -/
def midLetter : CharSet :=
  readRanges ["3A B7 387 55F 5F4 2027 FE13 FE55 FF1A"]

/-- Full stops and quotes that stand between letters or digits. -/
def midNumLet : CharSet :=
  readRanges ["2E 2018-2019 2024 FE52 FF07 FF0E"]

/-- Characters that are passed over when the case of a letter depends on its neighbours. -/
def caseIgnorable : CharSet :=
  .unions [nonspacingMark, enclosingMark, format, modifierLetter, modifierSymbol, midLetter,
    midNumLet, .range 0x27 0x27]

/-- Characters that change with case and fold together with no single character. -/
def longCasing : CharSet :=
  readRanges
    ["130-131 149 1F0 587 1E96-1E9A 1F50 1F52 1F54 1F56 1FB2 1FB4 1FB6-1FB7 1FC2 1FC4",
     "1FC6-1FC7 1FD2 1FD6-1FD7 1FE2 1FE4 1FE6-1FE7 1FF2 1FF4 1FF6-1FF7 FB00-FB04 FB13-FB17"]

/-- Characters that change when they are put into some case. -/
def changesWhenCasemapped : CharSet :=
  folding.union longCasing

/-- Characters that change in lower case. -/
def changesWhenLowercased : CharSet :=
  (uppercase.union titleLetter).inter changesWhenCasemapped

/-- Characters that change in upper case. -/
def changesWhenUppercased : CharSet :=
  (lowercase.union titleLetter).inter changesWhenCasemapped

/-- Characters that change in title case: the letters of Georgian do not, and the upper one of
three partners does. -/
def changesWhenTitlecased : CharSet :=
  (changesWhenUppercased.diff (titleLetter.union (readRanges ["10D0-10FA 10FD-10FF"]))).union
    (readRanges ["1C4 1C7 1CA 1F1"])

/-- Characters that change when case is folded. -/
def changesWhenCasefolded : CharSet :=
  (changesWhenLowercased.diff (.range 0x13A0 0x13F5)).union
    (readRanges
      ["B5 DF 149 17F 345 3C2 3D0-3D1 3D5-3D6 3F0-3F1 3F5 587 13F8-13FD 1C80-1C88 1E9A-1E9B",
       "1F80-1F87 1F90-1F97 1FA0-1FA7 1FB2-1FB4 1FB7 1FC2-1FC4 1FC7 1FF2-1FF4 1FF7 AB70-ABBF",
       "FB00-FB06 FB13-FB17"])

/-! ### Symbols and marks -/

/-- Mathematical characters. -/
def math : CharSet :=
  mathSymbol.union otherMath

/-- Characters that extend the one before them. -/
def graphemeExtend : CharSet :=
  .unions [nonspacingMark, enclosingMark, otherGraphemeExtend]

/-- Characters that others extend. -/
def graphemeBase : CharSet :=
  CharSet.any.diff
    (.unions [control, format, surrogate, privateUse, unassigned, lineSeparator,
      paragraphSeparator, graphemeExtend])

/-- Code points that are not shown if they are not supported. -/
def defaultIgnorableCodePoint : CharSet :=
  (CharSet.unions [otherDefaultIgnorableCodePoint, format, variationSelector]).diff
    (.unions [whiteSpace, prependedConcatenationMark, .range 0xFFF9 0xFFFB,
      .range 0x13430 0x13440])

/-! ### Names -/

/-- Characters that a name may start with. -/
def idStart : CharSet :=
  (CharSet.unions [letter, letterNumber, otherIdStart]).diff
    (patternSyntax.union patternWhiteSpace)

/-- Characters that a name may go on with. -/
def idContinue : CharSet :=
  (CharSet.unions [idStart, nonspacingMark, spacingMark, decimalNumber, connectorPunctuation,
    otherIdContinue]).diff (patternSyntax.union patternWhiteSpace)

/-- Characters whose compatible forms no name goes on with. -/
def idExceptions : CharSet :=
  readRanges ["37A 309B-309C FC5E-FC63 FDFA-FDFB FE70 FE72 FE74 FE76 FE78 FE7A FE7C FE7E"]

/-- Characters that a name may start with, in every compatible form. -/
def xidStart : CharSet :=
  idStart.diff (idExceptions.union (readRanges ["E33 EB3 FF9E-FF9F"]))

/-- Characters that a name may go on with, in every compatible form. -/
def xidContinue : CharSet :=
  idContinue.diff idExceptions

/-! ### Words -/

/-- Letters, marks, digits, connectors, and the two joiners. -/
def word : CharSet :=
  .unions [alphabetic, mark, decimalNumber, connectorPunctuation, joinControl]

/-! ### Properties by name -/

/-- The properties of this file by their names, in small letters and without separators. -/
def derivedProperties : List CharSet.Named :=
  [⟨["alpha", "alphabetic"], alphabetic⟩, ⟨["lower", "lowercase"], lowercase⟩,
   ⟨["upper", "uppercase"], uppercase⟩, ⟨["cased"], cased⟩,
   ⟨["ci", "caseignorable"], caseIgnorable⟩,
   ⟨["cwcm", "changeswhencasemapped"], changesWhenCasemapped⟩,
   ⟨["cwl", "changeswhenlowercased"], changesWhenLowercased⟩,
   ⟨["cwu", "changeswhenuppercased"], changesWhenUppercased⟩,
   ⟨["cwt", "changeswhentitlecased"], changesWhenTitlecased⟩,
   ⟨["cwcf", "changeswhencasefolded"], changesWhenCasefolded⟩, ⟨["math"], math⟩,
   ⟨["grext", "graphemeextend"], graphemeExtend⟩, ⟨["grbase", "graphemebase"], graphemeBase⟩,
   ⟨["di", "defaultignorablecodepoint"], defaultIgnorableCodePoint⟩, ⟨["ids", "idstart"], idStart⟩,
   ⟨["idc", "idcontinue"], idContinue⟩, ⟨["xids", "xidstart"], xidStart⟩,
   ⟨["xidc", "xidcontinue"], xidContinue⟩]

/-- The characters with the property of the given name. -/
def property? (name : String) : Option CharSet :=
  CharSet.lookup? derivedProperties name <|> CharSet.lookup? givenProperties name

end Unicode

end Axial
