import Coordination.Text.Unicode.Derived
import Coordination.Text.Unicode.Script

/-!
# Text segmentation

The classes by which the Unicode standard (version 16.0) finds the borders of graphemes, words and
sentences. Most classes follow from categories and properties; the rest is listed. A character in no
class of a list is of the class `Other`, which has no name here.

## Main definitions

* `graphemeBreaks`, `wordBreaks`, `sentenceBreaks`: the classes by name
-/

namespace Coordination.Text.Unicode

/-- The joiner that ties the characters on either side. -/
def joiner : CodeSet := .ofText "200D"

/-- Half of a flag. -/
def flagHalves : CodeSet := listedProperty "RI"

/-- The number marks that stand before the digits they go with. -/
def numberMarks : CodeSet := (listedProperty "PCM").difference (.ofText "70F")

/-! ## Graphemes -/

/-- What extends a grapheme without a place of its own. -/
def graphemeExtenders : CodeSet := graphemeExtend.union (listedProperty "EMod")

/-- Controls and line ends, which stand alone. -/
def graphemeControls : CodeSet :=
  (categoriesAnd ["Zl", "Zp", "Cc", "Cf"] (unassigned.inter defaultIgnorable)).difference
    (((listedProperty "PCM").union graphemeExtend).union (.ofText "A D 200D"))

/-- Spacing marks, but not those that start a syllable of their own. -/
def graphemeSpacing : CodeSet :=
  ((categoriesAnd ["Mc"] (.ofText "E33 EB3")).difference graphemeExtenders).difference
    (.ofText "102B-102C 1038 1062-1064 1067-106D 1083 1087-108C 108F 109A-109C 1A61 1A63-1A64
      AA7B AA7D 11720-11721")

/-- The Hangul syllables without a final consonant. -/
def openSyllables : CodeSet := .ofCodes ((List.range 399).map fun k => 0xac00 + 28 * k)

/-- The grapheme classes. -/
def graphemeBreaks : List NamedSet := [
  ⟨["CN", "Control"], graphemeControls⟩,
  ⟨["CR"], .ofText "D"⟩,
  ⟨["EX", "Extend"], graphemeExtenders⟩,
  ⟨["L"], .ofText "1100-115F A960-A97C"⟩,
  ⟨["LF"], .ofText "A"⟩,
  ⟨["LV"], openSyllables⟩,
  ⟨["LVT"], (CodeSet.ofText "AC00-D7A3").difference openSyllables⟩,
  ⟨["PP", "Prepend"],
    .ofText "600-605 6DD 70F 890-891 8E2 D4E 110BD 110CD 111C2-111C3 113D1 1193F 11941 11A3A
      11A84-11A89 11D46 11F02"⟩,
  ⟨["RI", "Regional_Indicator"], flagHalves⟩,
  ⟨["SM", "SpacingMark"], graphemeSpacing⟩,
  ⟨["T"], .ofText "11A8-11FF D7CB-D7FB"⟩,
  ⟨["V"], .ofText "1160-11A7 D7B0-D7C6 16D63 16D67-16D6A"⟩,
  ⟨["ZWJ"], joiner⟩]

/-! ## Words -/

/-- The letters of scripts that are written without blanks between words, whose words are found
with a dictionary. -/
def dictionaryLetters : CodeSet :=
  .ofText "E01-E3A E40-E4E E81-E82 E84 E86-E8A E8C-EA3 EA5 EA7-EBD EC0-EC4 EC6 EC8-ECE EDC-EDF
    1000-103F 1050-108F 109A-109F 1780-17D3 17D7 17DC-17DD 1950-196D 1970-1974 1980-19AB
    19B0-19C9 19DE-19DF 1A20-1A5E 1A60-1A7C 1AA0-1AAD A9E0-A9EF A9FA-A9FE AA60-AAC2 AADB-AADF
    11700-1171A 1171D-1172B 1173A-1173B 1173F-11746"

/-- Digits, the signs inside numbers, and number marks. -/
def numberParts : CodeSet := categoriesAnd ["Nd"] (numberMarks.union (.ofText "66B-66C 19DA"))

/-- The class of Katakana. -/
def katakana : CodeSet := (script "Kana").union (.ofText "3031-3035 309B-309C 30A0 30FC FF70")

/-- The Hebrew letters. -/
def hebrewLetters : CodeSet := (script "Hebr").inter (category "Lo")

/-- What extends a word without a place of its own. -/
def wordExtenders : CodeSet := categoriesAnd ["Mc"] graphemeExtenders

/-- The signs that count as letters without being alphabetic. -/
def letterSigns : CodeSet :=
  .ofText "B8 2C2-2C5 2D2-2D7 2DE-2DF 2E5-2EB 2ED 2EF-2FF 55A-55C 55E 58A 5F3 70F A708-A716
    A720-A721 A789-A78A AB5B"

/-- The letters whose words show by the blanks around them. -/
def wordLetters : CodeSet :=
  [katakana, dictionaryLetters, script "Hira", wordExtenders, hebrewLetters].foldl
    CodeSet.difference
    ((alphabeticCharacters.difference (listedProperty "Ideo")).union letterSigns)

/-- The word classes. -/
def wordBreaks : List NamedSet := [
  ⟨["CR"], .ofText "D"⟩,
  ⟨["DQ", "Double_Quote"], .ofText "22"⟩,
  ⟨["EX", "ExtendNumLet"], categoriesAnd ["Pc"] (.ofText "202F")⟩,
  ⟨["Extend"], wordExtenders⟩,
  ⟨["FO", "Format"],
    (((category "Cf").difference wordExtenders).difference (listedProperty "PCM")).difference
      (.ofText "200B-200D")⟩,
  ⟨["HL", "Hebrew_Letter"], hebrewLetters⟩,
  ⟨["KA", "Katakana"], katakana⟩,
  ⟨["LE", "ALetter"], wordLetters⟩,
  ⟨["LF"], .ofText "A"⟩,
  ⟨["MB", "MidNumLet"], .ofText "2E 2018-2019 2024 FE52 FF07 FF0E"⟩,
  ⟨["ML", "MidLetter"], .ofText "3A B7 387 55F 5F4 2027 FE13 FE55 FF1A"⟩,
  ⟨["MN", "MidNum"],
    .ofText "2C 3B 37E 589 60C-60D 66C 7F8 2044 FE10 FE14 FE50 FE54 FF0C FF1B"⟩,
  ⟨["NL", "Newline"], .ofText "B-C 85 2028-2029"⟩,
  ⟨["NU", "Numeric"], numberParts.difference (.ofText "66C")⟩,
  ⟨["RI", "Regional_Indicator"], flagHalves⟩,
  ⟨["SQ", "Single_Quote"], .ofText "27"⟩,
  ⟨["WSegSpace"], (category "Zs").difference (.ofText "A0 2007 202F")⟩,
  ⟨["ZWJ"], joiner⟩]

/-! ## Sentences -/

/-- The full stops that may belong to a number or an abbreviation. -/
def openStops : CodeSet := .ofText "2E 2024 FE52 FF0E"

/-- The marks that end a sentence. -/
def sentenceStops : CodeSet := (listedProperty "STerm").difference openStops

/-- The line ends that separate paragraphs. -/
def paragraphEnds : CodeSet := .ofText "85 2028-2029"

/-- What extends a character in a sentence. -/
def sentenceExtenders : CodeSet := (categoriesAnd ["Mc"] graphemeExtend).union joiner

/-- Small letters, but not those of a script without titles. -/
def sentenceLower : CodeSet :=
  (lowercase.difference graphemeExtend).difference (.ofText "10D0-10FA 10FD-10FF")

/-- Capital letters. -/
def sentenceUpper : CodeSet :=
  (categoriesAnd ["Lt"] uppercase).difference (.ofText "1C90-1CBA 1CBD-1CBF")

/-- Brackets and quotation marks. -/
def sentenceClosers : CodeSet :=
  ((categoriesAnd ["Ps", "Pe", "Pf", "Pi"]
    (.ofText "22 27 275B-2760 2E00-2E01 2E06-2E08 2E0B 1F676-1F678")).difference
      openStops).difference sentenceStops

/-- The sentence classes. -/
def sentenceBreaks : List NamedSet := [
  ⟨["AT", "ATerm"], openStops⟩,
  ⟨["CL", "Close"], sentenceClosers⟩,
  ⟨["CR"], .ofText "D"⟩,
  ⟨["EX", "Extend"], sentenceExtenders⟩,
  ⟨["FO", "Format"],
    (((category "Cf").difference sentenceExtenders).difference numberMarks).difference
      (.ofText "200C")⟩,
  ⟨["LE", "OLetter"],
    [sentenceLower, sentenceUpper, sentenceExtenders].foldl CodeSet.difference
      (alphabeticCharacters.union (.ofText "5F3"))⟩,
  ⟨["LF"], .ofText "A"⟩,
  ⟨["LO", "Lower"], sentenceLower⟩,
  ⟨["NU", "Numeric"], numberParts⟩,
  ⟨["SC", "SContinue"],
    .ofText "2C-2D 3A-3B 37E 55D 60C-60D 7F8 1802 1808 2013-2014 3001 FE10-FE11 FE13-FE14
      FE31-FE32 FE50-FE51 FE54-FE55 FE58 FE63 FF0C-FF0D FF1A-FF1B FF64"⟩,
  ⟨["SE", "Sep"], paragraphEnds⟩,
  ⟨["SP", "Sp"],
    ((listedProperty "WSpace").difference paragraphEnds).difference (.ofText "A D")⟩,
  ⟨["ST", "STerm"], sentenceStops⟩,
  ⟨["UP", "Upper"], sentenceUpper⟩]

end Coordination.Text.Unicode
