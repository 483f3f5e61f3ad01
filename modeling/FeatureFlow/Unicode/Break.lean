import FeatureFlow.Unicode.Derived
import FeatureFlow.Unicode.Script

/-! The parts that characters play where texts are cut into signs, words and sentences. -/
namespace FeatureFlow.Unicode.Break

open Category Listed Derived

def returnSign : CharSet := .single '\r'

def lineFeed : CharSet := .single '\n'

def joiner : CharSet := ⟨[(0x200D, 0x200D)]⟩

/-- Marks on numbers, which stand before the digits. One of the listed marks stands before letters.
-/
def numberMarks : CharSet := prependedConcatenationMark.diff ⟨[(0x70F, 0x70F)]⟩

/-- Letters of scripts that write words without blanks between them. -/
def complexContext : CharSet :=
  ⟨[(0xE01, 0xE3A), (0xE40, 0xE4E), (0xE81, 0xE82), (0xE84, 0xE84), (0xE86, 0xE8A), (0xE8C, 0xEA3),
    (0xEA5, 0xEA5), (0xEA7, 0xEBD), (0xEC0, 0xEC4), (0xEC6, 0xEC6), (0xEC8, 0xECE), (0xEDC, 0xEDF),
    (0x1000, 0x103F), (0x1050, 0x108F), (0x109A, 0x109F), (0x1780, 0x17D3), (0x17D7, 0x17D7),
    (0x17DC, 0x17DD), (0x1950, 0x196D), (0x1970, 0x1974), (0x1980, 0x19AB), (0x19B0, 0x19C9),
    (0x19DA, 0x19DA), (0x19DE, 0x19DF), (0x1A20, 0x1A5E), (0x1A60, 0x1A7C), (0x1AA0, 0x1AAD),
    (0xA9E0, 0xA9EF), (0xA9FA, 0xA9FE), (0xAA60, 0xAAC2), (0xAADB, 0xAADF), (0x11700, 0x1171A),
    (0x1171D, 0x1172B), (0x1173A, 0x1173B), (0x1173F, 0x11746)]⟩

def signExtend : CharSet := graphemeExtend.union emojiModifier

def signControl : CharSet :=
  (CharSet.unions [lineSeparator, paragraphSeparator, control, format,
    unassigned.inter defaultIgnorable]).diff
    (.unions [returnSign, lineFeed, ⟨[(0x200C, 0x200D)]⟩, prependedConcatenationMark, signExtend])

def signPrepend : CharSet :=
  .unions [prependedConcatenationMark,
    ⟨[(0xD4E, 0xD4E), (0x111C2, 0x111C3), (0x113D1, 0x113D1), (0x1193F, 0x1193F),
      (0x11941, 0x11941), (0x11A3A, 0x11A3A), (0x11A84, 0x11A89), (0x11D46, 0x11D46),
      (0x11F02, 0x11F02)]⟩]

/-- Spacing marks that do not join the sign before them. -/
def loneMarks : CharSet :=
  ⟨[(0x102B, 0x102C), (0x1038, 0x1038), (0x1062, 0x1064), (0x1067, 0x106D), (0x1083, 0x1083),
    (0x1087, 0x108C), (0x108F, 0x108F), (0x109A, 0x109C), (0x1A61, 0x1A61), (0x1A63, 0x1A64),
    (0xAA7B, 0xAA7B), (0xAA7D, 0xAA7D), (0x11720, 0x11721)]⟩

def signSpacing : CharSet :=
  (spacingMark.diff (signExtend.union loneMarks)).union ⟨[(0xE33, 0xE33), (0xEB3, 0xEB3)]⟩

/-- The first of every 28 Hangul syllables ends in a vowel, the others in a consonant. -/
def openSyllable : CharSet := ⟨(List.range 399).map fun i => (0xAC00 + 28 * i, 0xAC00 + 28 * i)⟩

def closedSyllable : CharSet := (CharSet.mk [(0xAC00, 0xD7A3)]).diff openSyllable

def signs : NameTable :=
  [(["cr"], returnSign), (["lf"], lineFeed), (["cn", "control"], signControl),
   (["ex", "extend"], signExtend), (["pp", "prepend"], signPrepend),
   (["ri", "regionalindicator"], regionalIndicator), (["sm", "spacingmark"], signSpacing),
   (["zwj"], joiner), (["l"], ⟨[(0x1100, 0x115F), (0xA960, 0xA97C)]⟩),
   (["v"], ⟨[(0x1160, 0x11A7), (0xD7B0, 0xD7C6), (0x16D63, 0x16D63), (0x16D67, 0x16D6A)]⟩),
   (["t"], ⟨[(0x11A8, 0x11FF), (0xD7CB, 0xD7FB)]⟩), (["lv"], openSyllable),
   (["lvt"], closedSyllable)]

def wordExtend : CharSet :=
  (CharSet.unions [graphemeExtend, spacingMark, emojiModifier]).diff joiner

def wordFormat : CharSet :=
  format.diff (.unions [⟨[(0x200B, 0x200D)]⟩, prependedConcatenationMark, wordExtend])

def wordKatakana : CharSet :=
  .unions [Script.katakana,
    ⟨[(0x3031, 0x3035), (0x309B, 0x309C), (0x30A0, 0x30A0), (0x30FC, 0x30FC), (0xFF70, 0xFF70)]⟩]

def hebrewLetter : CharSet := Script.hebrew.inter otherLetter

/-- Signs that count as letters of a word. -/
def letterSigns : CharSet :=
  ⟨[(0x2C2, 0x2C5), (0x2D2, 0x2D7), (0x2DE, 0x2DF), (0x2E5, 0x2EB), (0x2ED, 0x2ED), (0x2EF, 0x2FF),
    (0x55A, 0x55C), (0x55E, 0x55E), (0x58A, 0x58A), (0x5F3, 0x5F3), (0x70F, 0x70F),
    (0xA708, 0xA716), (0xA720, 0xA721), (0xA789, 0xA78A), (0xAB5B, 0xAB5B)]⟩

def wordLetter : CharSet :=
  (alphabetic.union letterSigns).diff (.unions [ideographic, wordKatakana, complexContext,
    Script.hiragana, wordExtend, hebrewLetter])

def wordNumeric : CharSet := .unions [decimalNumber, numberMarks, ⟨[(0x66B, 0x66B)]⟩]

def wordMidNum : CharSet :=
  ⟨[(0x2C, 0x2C), (0x3B, 0x3B), (0x37E, 0x37E), (0x589, 0x589), (0x60C, 0x60D), (0x66C, 0x66C),
    (0x7F8, 0x7F8), (0x2044, 0x2044), (0xFE10, 0xFE10), (0xFE14, 0xFE14), (0xFE50, 0xFE50),
    (0xFE54, 0xFE54), (0xFF0C, 0xFF0C), (0xFF1B, 0xFF1B)]⟩

def words : NameTable :=
  [(["cr"], returnSign), (["lf"], lineFeed), (["dq", "doublequote"], .single '"'),
   (["ex", "extendnumlet"], connectorPunctuation.union ⟨[(0x202F, 0x202F)]⟩),
   (["extend"], wordExtend), (["fo", "format"], wordFormat),
   (["hl", "hebrewletter"], hebrewLetter), (["ka", "katakana"], wordKatakana),
   (["le", "aletter"], wordLetter), (["mb", "midnumlet"], midNumLet),
   (["ml", "midletter"], midLetter), (["mn", "midnum"], wordMidNum),
   (["nl", "newline"], ⟨[(0xB, 0xC), (0x85, 0x85), (0x2028, 0x2029)]⟩),
   (["nu", "numeric"], wordNumeric), (["ri", "regionalindicator"], regionalIndicator),
   (["sq", "singlequote"], singleQuote),
   (["wsegspace"],
     spaceSeparator.diff ⟨[(0xA0, 0xA0), (0x2007, 0x2007), (0x202F, 0x202F)]⟩),
   (["zwj"], joiner)]

def sentenceSeparator : CharSet := ⟨[(0x85, 0x85), (0x2028, 0x2029)]⟩

def sentenceExtend : CharSet := .unions [graphemeExtend, spacingMark, joiner]

def sentenceNumeric : CharSet := .unions [decimalNumber, numberMarks, ⟨[(0x66B, 0x66C)]⟩]

def sentenceFormat : CharSet :=
  format.diff (.unions [⟨[(0x200C, 0x200D)]⟩, sentenceExtend, sentenceNumeric])

def sentenceLower : CharSet := lowercase.diff (graphemeExtend.union mkhedruli)

/-- Georgian capitals do not start sentences. -/
def sentenceUpper : CharSet :=
  (uppercase.union titlecaseLetter).diff ⟨[(0x1C90, 0x1CBA), (0x1CBD, 0x1CBF)]⟩

def sentenceLetter : CharSet :=
  (alphabetic.union ⟨[(0x5F3, 0x5F3)]⟩).diff
    (.unions [sentenceLower, sentenceUpper, sentenceExtend])

/-- Full stops may end a sentence or an abbreviation. -/
def fullStop : CharSet :=
  ⟨[(0x2E, 0x2E), (0x2024, 0x2024), (0xFE52, 0xFE52), (0xFF0E, 0xFF0E)]⟩

def sentenceEnd : CharSet := sentenceTerminal.diff fullStop

def sentenceContinue : CharSet :=
  ⟨[(0x2C, 0x2D), (0x3A, 0x3B), (0x37E, 0x37E), (0x55D, 0x55D), (0x60C, 0x60D), (0x7F8, 0x7F8),
    (0x1802, 0x1802), (0x1808, 0x1808), (0x2013, 0x2014), (0x3001, 0x3001), (0xFE10, 0xFE11),
    (0xFE13, 0xFE14), (0xFE31, 0xFE32), (0xFE50, 0xFE51), (0xFE54, 0xFE55), (0xFE58, 0xFE58),
    (0xFE63, 0xFE63), (0xFF0C, 0xFF0D), (0xFF1A, 0xFF1B), (0xFF64, 0xFF64)]⟩

/-- Brackets and quotation marks. -/
def sentenceClose : CharSet :=
  (CharSet.unions [openPunctuation, closePunctuation, initialPunctuation, finalPunctuation,
    ⟨[(0x22, 0x22), (0x27, 0x27), (0x275B, 0x2760), (0x2E00, 0x2E01), (0x2E06, 0x2E08),
      (0x2E0B, 0x2E0B), (0x1F676, 0x1F678)]⟩]).diff (fullStop.union sentenceEnd)

def sentences : NameTable :=
  [(["at", "aterm"], fullStop), (["cl", "close"], sentenceClose), (["cr"], returnSign),
   (["ex", "extend"], sentenceExtend), (["fo", "format"], sentenceFormat),
   (["le", "oletter"], sentenceLetter), (["lf"], lineFeed), (["lo", "lower"], sentenceLower),
   (["nu", "numeric"], sentenceNumeric), (["sc", "scontinue"], sentenceContinue),
   (["se", "sep"], sentenceSeparator),
   (["sp"], whiteSpace.diff (.unions [sentenceSeparator, returnSign, lineFeed])),
   (["st", "sterm"], sentenceEnd), (["up", "upper"], sentenceUpper)]

end FeatureFlow.Unicode.Break
