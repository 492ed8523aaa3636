import Axial.Unicode.Derived
import Axial.Unicode.Script

/-!
# Classes of text boundaries

Boundaries between the signs that a reader sees as one, between words and between sentences are
found by classes of characters.

* `graphemeBreaks`, `wordBreaks`, `sentenceBreaks` : the classes by name.
-/

namespace Axial

namespace Unicode

/-- The carriage return. -/
def carriageReturn : CharSet := .single '\r'

/-- The line feed. -/
def lineFeed : CharSet := .single '\n'

/-- The zero-width joiner. -/
def zeroWidthJoiner : CharSet := .range 0x200D 0x200D

/-! ### Signs -/

namespace GraphemeBreak

/-- Characters that stand alone: separators, controls, and ignorable code points without a
character. -/
def control : CharSet :=
  (CharSet.unions [lineSeparator, paragraphSeparator, Unicode.control, format,
    unassigned.inter defaultIgnorableCodePoint]).diff
    (.unions [carriageReturn, lineFeed, zeroWidthJoiner, graphemeExtend,
      prependedConcatenationMark])

/-- Characters that extend the sign before. -/
def extend : CharSet :=
  graphemeExtend.union emojiModifier

/-- Marks that take space and belong to the sign before; those of some scripts do not. -/
def spacingMark : CharSet :=
  ((Unicode.spacingMark.diff graphemeExtend).diff
    (readRanges
      ["102B-102C 1038 1062-1064 1067-106D 1083 1087-108C 108F 109A-109C 1A61 1A63-1A64 AA7B AA7D",
       "11720-11721"])).union (readRanges ["E33 EB3"])

/-- Characters that belong to the sign after. -/
def prepend : CharSet :=
  prependedConcatenationMark.union
    (readRanges ["D4E 111C2-111C3 113D1 1193F 11941 11A3A 11A84-11A89 11D46 11F02"])

/-- Syllables of a consonant and a vowel, the first of every 28. -/
def openSyllable : CharSet :=
  ⟨(List.range 399).map fun k => (0xAC00 + 28 * k, 0xAC00 + 28 * k)⟩

/-- Syllables that end in a consonant. -/
def closedSyllable : CharSet :=
  (CharSet.range 0xAC00 0xD7A3).diff openSyllable

end GraphemeBreak

/-- The classes of the boundaries between signs. -/
def graphemeBreaks : List CharSet.Named :=
  [⟨["cr"], carriageReturn⟩, ⟨["lf"], lineFeed⟩, ⟨["cn", "control"], GraphemeBreak.control⟩,
   ⟨["ex", "extend"], GraphemeBreak.extend⟩, ⟨["zwj"], zeroWidthJoiner⟩,
   ⟨["ri", "regionalindicator"], regionalIndicator⟩, ⟨["pp", "prepend"], GraphemeBreak.prepend⟩,
   ⟨["sm", "spacingmark"], GraphemeBreak.spacingMark⟩, ⟨["l"], readRanges ["1100-115F A960-A97C"]⟩,
   ⟨["v"], readRanges ["1160-11A7 D7B0-D7C6 16D63 16D67-16D6A"]⟩,
   ⟨["t"], readRanges ["11A8-11FF D7CB-D7FB"]⟩, ⟨["lv"], GraphemeBreak.openSyllable⟩,
   ⟨["lvt"], GraphemeBreak.closedSyllable⟩]

/-! ### Words -/

namespace WordBreak

/-- Characters that extend the one before. -/
def extend : CharSet :=
  .unions [graphemeExtend, spacingMark, emojiModifier]

/-- Format characters that are passed over. -/
def format : CharSet :=
  Unicode.format.diff
    (.unions [prependedConcatenationMark, graphemeExtend, zeroWidthJoiner, .range 0x200B 0x200B])

/-- Characters of katakana, with those that it shares with hiragana. -/
def katakana : CharSet :=
  ((CharSet.lookup? scripts "kana").getD .empty).union
    (readRanges ["3031-3035 309B-309C 30A0 30FC FF70"])

/-- Letters of Hebrew. -/
def hebrewLetter : CharSet :=
  ((CharSet.lookup? scripts "hebr").getD .empty).inter otherLetter

/-- Letters of scripts that write words without spaces between them. -/
def unspaced : CharSet :=
  readRanges
    ["E01-E30 E32-E33 E40-E46 E81-E82 E84 E86-E8A E8C-EA3 EA5 EA7-EB0 EB2-EB3 EBD EC0-EC4 EC6",
     "EDC-EDF 1000-102A 103F 1050-1055 105A-105D 1061 1065-1066 106E-1070 1075-1081 108E",
     "1780-17B3 17D7 17DC 1950-196D 1970-1974 1980-19AB 19B0-19C9 1A20-1A54 1AA7 A9E0-A9E4",
     "A9E6-A9EF A9FA-A9FE AA60-AA76 AA7A AA7E-AAAF AAB1 AAB5-AAB6 AAB9-AABD AAC0 AAC2 AADB-AADD",
     "11700-1171A 11740-11746"]

/-- Signs that count as letters of words. -/
def letterLike : CharSet :=
  readRanges
    ["2C2-2C5 2D2-2D7 2DE-2DF 2E5-2EB 2ED 2EF-2FF 55A-55C 55E 58A 5F3 70F A708-A716 A720-A721",
     "A789-A78A AB5B"]

/-- Letters of words. -/
def aLetter : CharSet :=
  (alphabetic.diff
    (.unions [ideographic, katakana, (CharSet.lookup? scripts "hira").getD .empty, extend,
      hebrewLetter, unspaced])).union letterLike

/-- Digits, with the marks that belong to numbers. -/
def numeric : CharSet :=
  .unions [decimalNumber, prependedConcatenationMark.diff (.range 0x70F 0x70F),
    readRanges ["66B 19DA"]]

end WordBreak

/-- The classes of the boundaries between words. -/
def wordBreaks : List CharSet.Named :=
  [⟨["cr"], carriageReturn⟩, ⟨["lf"], lineFeed⟩,
   ⟨["nl", "newline"], readRanges ["B-C 85 2028-2029"]⟩, ⟨["extend"], WordBreak.extend⟩,
   ⟨["zwj"], zeroWidthJoiner⟩, ⟨["ri", "regionalindicator"], regionalIndicator⟩,
   ⟨["fo", "format"], WordBreak.format⟩, ⟨["ka", "katakana"], WordBreak.katakana⟩,
   ⟨["hl", "hebrewletter"], WordBreak.hebrewLetter⟩, ⟨["le", "aletter"], WordBreak.aLetter⟩,
   ⟨["sq", "singlequote"], .range 0x27 0x27⟩, ⟨["dq", "doublequote"], .range 0x22 0x22⟩,
   ⟨["mb", "midnumlet"], midNumLet⟩, ⟨["ml", "midletter"], midLetter⟩,
   ⟨["mn", "midnum"], readRanges ["2C 3B 37E 589 60C-60D 66C 7F8 2044 FE50 FE54 FF0C FF1B"]⟩,
   ⟨["nu", "numeric"], WordBreak.numeric⟩,
   ⟨["ex", "extendnumlet"], connectorPunctuation.union (.range 0x202F 0x202F)⟩,
   ⟨["wsegspace"], readRanges ["20 1680 2000-2006 2008-200A 205F 3000"]⟩]

/-! ### Sentences -/

namespace SentenceBreak

/-- Characters that extend the one before. -/
def extend : CharSet :=
  .unions [graphemeExtend, spacingMark, zeroWidthJoiner]

/-- The ends of paragraphs. -/
def sep : CharSet :=
  readRanges ["85 2028-2029"]

/-- Spaces. -/
def sp : CharSet :=
  whiteSpace.diff (.unions [sep, carriageReturn, lineFeed])

/-- Digits, with the marks that belong to numbers. -/
def numeric : CharSet :=
  WordBreak.numeric.union (.range 0x66C 0x66C)

/-- Format characters that are passed over. -/
def format : CharSet :=
  Unicode.format.diff (.unions [numeric, graphemeExtend, zeroWidthJoiner])

/-- Lower-case characters, but for the letters of Georgian. -/
def lower : CharSet :=
  lowercase.diff (graphemeExtend.union (readRanges ["10D0-10FA 10FD-10FF"]))

/-- Upper-case characters, but for the capitals of Georgian. -/
def upper : CharSet :=
  (uppercase.union titleLetter).diff (readRanges ["1C90-1CBA 1CBD-1CBF"])

/-- Letters without case. -/
def oLetter : CharSet :=
  (alphabetic.union (.range 0x5F3 0x5F3)).diff (.unions [lower, upper, extend])

/-- Full stops. -/
def aTerm : CharSet :=
  readRanges ["2E 2024 FE52 FF0E"]

/-- Brackets and quotes. -/
def close : CharSet :=
  .unions [openPunctuation, closePunctuation, initialPunctuation, finalPunctuation,
    readRanges ["22 27 275B-2760 2E00-2E01 2E06-2E08 2E0B 1F676-1F678"]]

/-- Punctuation inside sentences. -/
def sContinue : CharSet :=
  readRanges
    ["2C-2D 3A-3B 37E 55D 60C-60D 7F8 1802 1808 2013-2014 3001 FE10-FE11 FE13-FE14 FE31-FE32",
     "FE50-FE51 FE54-FE55 FE58 FE63 FF0C-FF0D FF1A-FF1B FF64"]

end SentenceBreak

/-- The classes of the boundaries between sentences. -/
def sentenceBreaks : List CharSet.Named :=
  [⟨["cr"], carriageReturn⟩, ⟨["lf"], lineFeed⟩, ⟨["ex", "extend"], SentenceBreak.extend⟩,
   ⟨["se", "sep"], SentenceBreak.sep⟩, ⟨["fo", "format"], SentenceBreak.format⟩,
   ⟨["sp"], SentenceBreak.sp⟩, ⟨["lo", "lower"], SentenceBreak.lower⟩,
   ⟨["up", "upper"], SentenceBreak.upper⟩, ⟨["le", "oletter"], SentenceBreak.oLetter⟩,
   ⟨["nu", "numeric"], SentenceBreak.numeric⟩, ⟨["at", "aterm"], SentenceBreak.aTerm⟩,
   ⟨["sc", "scontinue"], SentenceBreak.sContinue⟩,
   ⟨["st", "sterm"], sentenceTerminal.diff SentenceBreak.aTerm⟩,
   ⟨["cl", "close"], SentenceBreak.close⟩]

end Unicode

end Axial
