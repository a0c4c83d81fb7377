import Coordination.Text.Unicode.Category
import Coordination.Text.Unicode.Property

/-!
# Derived properties

The binary properties that the Unicode standard (version 16.0) defines by others: letters in either
case, alphabetic characters, identifiers, graphemes. Each is the union of general categories and of
a listed property that adds what the categories miss.

## Main definitions

* `derivedProperties`: these properties by name
* `property`: a binary property by its short name, listed or derived
* `wordCharacters`: the characters that words in a pattern are made of
-/

namespace Coordination.Text.Unicode

/-- The characters of some categories and of a listed property. -/
def categoriesAnd (names : List String) (more : CodeSet) : CodeSet :=
  (categoryUnion names).union more

/-- Letters in lower case and what is used like them. -/
def lowercase : CodeSet := categoriesAnd ["Ll"] (listedProperty "OLower")

/-- Letters in upper case and what is used like them. -/
def uppercase : CodeSet := categoriesAnd ["Lu"] (listedProperty "OUpper")

/-- The characters used to spell words. -/
def alphabeticCharacters : CodeSet :=
  (categoriesAnd ["Lt", "Lm", "Lo", "Nl"] (listedProperty "OAlpha")).union
    (lowercase.union uppercase)

/-- Letters that are in some case. -/
def cased : CodeSet := categoriesAnd ["Lt"] (lowercase.union uppercase)

/-- The punctuation that stands between the letters of a word. -/
def middlePunctuation : CodeSet :=
  .ofText "27 2E 3A B7 387 55F 5F4 2018-2019 2024 2027 FE13 FE52 FE55 FF07 FF0E FF1A"

/-- What case conversion looks past. -/
def caseIgnorable : CodeSet := categoriesAnd ["Mn", "Me", "Cf", "Lm", "Sk"] middlePunctuation

/-- The characters of mathematical notation. -/
def mathematical : CodeSet := categoriesAnd ["Sm"] (listedProperty "OMath")

/-- The characters that are part of the syntax of patterns. -/
def patternCharacters : CodeSet := (listedProperty "Pat_Syn").union (listedProperty "Pat_WS")

/-- The characters that an identifier may start with. -/
def identifierStart : CodeSet :=
  (categoriesAnd ["Lu", "Ll", "Lt", "Lm", "Lo", "Nl"] (listedProperty "OIDS")).difference
    patternCharacters

/-- The characters that an identifier may go on with. -/
def identifierContinue : CodeSet :=
  identifierStart.union
    ((categoriesAnd ["Mn", "Mc", "Nd", "Pc"] (listedProperty "OIDC")).difference
      patternCharacters)

/-- The characters whose compatibility form cannot go on an identifier. -/
def unstableContinue : CodeSet :=
  .ofText "37A 309B-309C FC5E-FC63 FDFA-FDFB FE70 FE72 FE74 FE76 FE78 FE7A FE7C FE7E"

/-- The characters whose compatibility form cannot start an identifier. -/
def unstableStart : CodeSet := unstableContinue.union (.ofText "E33 EB3 FF9E-FF9F")

/-- The characters that extend the one before them. -/
def graphemeExtend : CodeSet := categoriesAnd ["Me", "Mn"] (listedProperty "OGr_Ext")

/-- The characters with a place of their own. -/
def graphemeBase : CodeSet :=
  (categoriesAnd ["Cc", "Cf", "Co", "Zl", "Zp"]
    ((CodeSet.ofRanges [surrogates]).union (unassigned.union graphemeExtend))).complement

/-- The code points that may be left out where they cannot be shown. -/
def defaultIgnorable : CodeSet :=
  (categoriesAnd ["Cf"] ((listedProperty "ODI").union (listedProperty "VS"))).difference
    (((listedProperty "WSpace").union (listedProperty "PCM")).union
      (.ofText "FFF9-FFFB 13430-13440"))

/-- The derived properties with their members. -/
def derivedProperties : List NamedSet := [
  ⟨["Alpha", "Alphabetic"], alphabeticCharacters⟩,
  ⟨["CI", "Case_Ignorable"], caseIgnorable⟩,
  ⟨["Cased"], cased⟩,
  ⟨["DI", "Default_Ignorable_Code_Point"], defaultIgnorable⟩,
  ⟨["Gr_Base", "Grapheme_Base"], graphemeBase⟩,
  ⟨["Gr_Ext", "Grapheme_Extend"], graphemeExtend⟩,
  ⟨["IDC", "ID_Continue"], identifierContinue⟩,
  ⟨["IDS", "ID_Start"], identifierStart⟩,
  ⟨["Lower", "Lowercase"], lowercase⟩,
  ⟨["Math"], mathematical⟩,
  ⟨["Upper", "Uppercase"], uppercase⟩,
  ⟨["XIDC", "XID_Continue"], identifierContinue.difference unstableContinue⟩,
  ⟨["XIDS", "XID_Start"], identifierStart.difference unstableStart⟩]

/-- The binary properties with their members. -/
def properties : List NamedSet := derivedProperties ++ listedProperties

/-- The characters that can be part of a word: letters, marks, decimal digits, connecting
punctuation and the two joiners. -/
def wordCharacters : CodeSet :=
  (categoriesAnd ["Mn", "Mc", "Me", "Nd", "Pc"] (listedProperty "Join_C")).union
    alphabeticCharacters

end Coordination.Text.Unicode
