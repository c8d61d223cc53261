import PathQuery.Unicode.Derived

/-! # Classes of text segmentation

The classes by which a text falls into user-perceived characters, words and sentences.
Each class is given by its rule, over properties, categories and scripts; only what no
rule covers is listed. -/
namespace PathQuery.Unicode

open Text

/-- Marks that stand before the digits they belong to. -/
def prependedMark : CharSet := (contributory? "pcm").getD .empty

/-- The joiner that asks for a ligature. -/
def joiner : CharSet := .single '\u200d'

/-! ### User-perceived characters -/

/-- Characters that extend the one before them. -/
def graphemeExtend : CharSet :=
  ((propertyChars "graphemeextend").union (propertyChars "emojimodifier")).diff joiner

/-- Controls, formats and unassigned characters that are ignored by default. -/
def graphemeControl : CharSet :=
  ((categoryChars ["zl", "zp", "cc", "cf"]).union
    ((categoryChars ["cn"]).inter (propertyChars "defaultignorablecodepoint"))).diff
    (.unionAll [CharSet.ofTable "a d", joiner, prependedMark, graphemeExtend])

/-- Spacing marks that extend the character before them. -/
def graphemeSpacing : CharSet :=
  ((categoryChars ["mc"]).diff (graphemeExtend.union (CharSet.ofTable
    ("102b-102c 1038 1062-1064 1067-106d 1083 1087-108c 108f 109a-109c 1a61 1a63-1a64 " ++
      "aa7b aa7d 11720-11721")))).union (CharSet.ofTable "e33 eb3")

/-- Characters that belong to the one after them. -/
def graphemePrepend : CharSet :=
  prependedMark.union (CharSet.ofTable
    "d4e 111c2-111c3 113d1 1193f 11941 11a3a 11a84-11a89 11d46 11f02")

/-- The Hangul syllables without a final consonant: one in every row of 28. -/
def openSyllables : CharSet :=
  ⟨(List.range 399).map fun k => (0xac00 + 28 * k, 0xac00 + 28 * k)⟩

/-- The characters of a class of user-perceived characters. -/
def graphemeBreak? (name : String) : Option CharSet :=
  match name with
  | "cr" => some (.single '\r')
  | "lf" => some (.single '\n')
  | "cn" | "control" => some graphemeControl
  | "ex" | "extend" => some graphemeExtend
  | "zwj" => some joiner
  | "pp" | "prepend" => some graphemePrepend
  | "ri" | "regionalindicator" => some (propertyChars "regionalindicator")
  | "sm" | "spacingmark" => some graphemeSpacing
  | "l" => some (CharSet.ofTable "1100-115f a960-a97c")
  | "v" => some (CharSet.ofTable "1160-11a7 d7b0-d7c6 16d63 16d67-16d6a")
  | "t" => some (CharSet.ofTable "11a8-11ff d7cb-d7fb")
  | "lv" => some openSyllables
  | "lvt" => some ((CharSet.between '\uac00' '\ud7a3').diff openSyllables)
  | _ => none

/-! ### Words -/

/-- Characters that extend the one before them inside a word. -/
def wordExtend : CharSet := (graphemeExtend.union (categoryChars ["mc"])).diff joiner

/-- Format characters that words pass over. -/
def wordFormat : CharSet :=
  (categoryChars ["cf"]).diff
    (.unionAll [CharSet.ofTable "200b-200d", prependedMark, wordExtend])

/-- Letters and marks of the syllabary Katakana. -/
def wordKatakana : CharSet :=
  (scriptChars "katakana").union (CharSet.ofTable "3031-3035 309b-309c 30a0 30fc ff70")

/-- Letters of Hebrew. -/
def wordHebrew : CharSet := (scriptChars "hebrew").inter (categoryChars ["lo"])

/-- Letters of scripts that do not set words apart. -/
def runOnLetters : CharSet :=
  CharSet.ofTable
    ("e01-e3a e40-e4e e81-e82 e84 e86-e8a e8c-ea3 ea5 ea7-ebd ec0-ec4 ec6 ec8-ece edc-edf " ++
      "1000-103f 1050-108f 109a-109f 1780-17d3 17d7 17dc-17dd 1950-196d 1970-1974 1980-19ab " ++
      "19b0-19c9 19da 19de-19df 1a20-1a5e 1a60-1a7c 1aa0-1aad a9e0-a9ef a9fa-a9fe aa60-aac2 " ++
      "aadb-aadf 11700-1171a 1171d-1172b 1173a-1173b 1173f-11746")

/-- Letters of scripts that set words apart by spaces. -/
def wordLetter : CharSet :=
  ((propertyChars "alphabetic").union (CharSet.ofTable
    ("2c2-2c5 2d2-2d7 2de-2df 2e5-2eb 2ed 2ef-2ff 55a-55c 55e 58a 5f3 70f a708-a716 " ++
      "a720-a721 a789-a78a ab5b"))).diff
    (.unionAll [propertyChars "ideographic", wordKatakana, runOnLetters, scriptChars "hiragana",
      wordExtend, wordHebrew])

/-- Digits, with the marks that stand before them. -/
def breakNumeric : CharSet :=
  ((categoryChars ["nd"]).diff runOnLetters).union
    (CharSet.ofTable "600-605 66b 6dd 890-891 8e2 19da 110bd 110cd")

/-- The characters of a class of words. -/
def wordBreak? (name : String) : Option CharSet :=
  match name with
  | "cr" => some (.single '\r')
  | "lf" => some (.single '\n')
  | "nl" | "newline" => some (CharSet.ofTable "b-c 85 2028-2029")
  | "extend" => some wordExtend
  | "zwj" => some joiner
  | "ri" | "regionalindicator" => some (propertyChars "regionalindicator")
  | "fo" | "format" => some wordFormat
  | "ka" | "katakana" => some wordKatakana
  | "hl" | "hebrewletter" => some wordHebrew
  | "le" | "aletter" => some wordLetter
  | "sq" | "singlequote" => some (.single '\'')
  | "dq" | "doublequote" => some (.single '"')
  | "mb" | "midnumlet" => some (CharSet.ofTable "2e 2018-2019 2024 fe52 ff07 ff0e")
  | "ml" | "midletter" => some (CharSet.ofTable "3a b7 387 55f 5f4 2027 fe13 fe55 ff1a")
  | "mn" | "midnum" =>
    some (CharSet.ofTable "2c 3b 37e 589 60c-60d 66c 7f8 2044 fe50 fe54 ff0c ff1b")
  | "nu" | "numeric" => some breakNumeric
  | "ex" | "extendnumlet" => some ((categoryChars ["pc"]).union (CharSet.ofTable "202f"))
  | "wsegspace" => some ((categoryChars ["zs"]).diff (CharSet.ofTable "a0 2007 202f"))
  | _ => none

/-! ### Sentences -/

/-- Characters that extend the one before them inside a sentence. -/
def sentenceExtend : CharSet :=
  .unionAll [propertyChars "graphemeextend", categoryChars ["mc"], joiner]

/-- Lower-case letters. -/
def sentenceLower : CharSet :=
  (propertyChars "lowercase").diff
    ((propertyChars "graphemeextend").union (CharSet.ofTable "10d0-10fa 10fd-10ff"))

/-- Upper-case and title-case letters. -/
def sentenceUpper : CharSet :=
  ((categoryChars ["lt"]).union (propertyChars "uppercase")).diff
    (CharSet.ofTable "1c90-1cba 1cbd-1cbf")

/-- Full stops, which do not always end a sentence. -/
def fullStop : CharSet := CharSet.ofTable "2e 2024 fe52 ff0e"

/-- Marks that end a sentence. -/
def sentenceEnd : CharSet := (propertyChars "sentenceterminal").diff fullStop

/-- Brackets and quotes. -/
def sentenceClose : CharSet :=
  ((categoryChars ["ps", "pe", "pi", "pf"]).union
    (CharSet.ofTable "22 27 275b-2760 2e00-2e01 2e06-2e08 2e0b 1f676-1f678")).diff
    (fullStop.union sentenceEnd)

/-- The characters of a class of sentences. -/
def sentenceBreak? (name : String) : Option CharSet :=
  match name with
  | "cr" => some (.single '\r')
  | "lf" => some (.single '\n')
  | "se" | "sep" => some (CharSet.ofTable "85 2028-2029")
  | "ex" | "extend" => some sentenceExtend
  | "fo" | "format" => some (wordFormat.union (CharSet.ofTable "70f 200b"))
  | "sp" => some (blank.diff (CharSet.ofTable "a d 85 2028-2029"))
  | "lo" | "lower" => some sentenceLower
  | "up" | "upper" => some sentenceUpper
  | "le" | "oletter" =>
    some (((propertyChars "alphabetic").union (CharSet.ofTable "5f3")).diff
      (.unionAll [sentenceLower, sentenceUpper, sentenceExtend]))
  | "nu" | "numeric" => some (breakNumeric.union (CharSet.ofTable "66c"))
  | "at" | "aterm" => some fullStop
  | "sc" | "scontinue" =>
    some (CharSet.ofTable
      ("2c-2d 3a-3b 37e 55d 60c-60d 7f8 1802 1808 2013-2014 3001 fe10-fe11 fe13-fe14 " ++
        "fe31-fe32 fe50-fe51 fe54-fe55 fe58 fe63 ff0c-ff0d ff1a-ff1b ff64"))
  | "st" | "sterm" => some sentenceEnd
  | "cl" | "close" => some sentenceClose
  | _ => none

end PathQuery.Unicode
