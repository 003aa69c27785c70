import FlowScript.Text.Script
import FlowScript.Text.Trait

/-!
# Segments of text

How characters take part in the boundaries of clusters, words and sentences, by the Unicode
standard, version 16.

* `Cluster.named?`, `WordPart.named?`, `SentencePart.named?`: the classes by name.
-/

namespace FlowScript.Text

open Category Trait

/-- The joiner of emoji and letters. -/
def zeroWidthJoiner : CharSet := .ofTable ["200d"]

/-- Format characters other than those that join, separate or precede others. -/
def plainFormat : CharSet :=
  format.diff (.unions [graphemeExtend, prependedConcatenationMark, .ofTable ["200b-200d"]])

/-- Marks that attach to the character before them. -/
def attached : CharSet := (graphemeExtend.union spacingMark).diff zeroWidthJoiner

namespace Cluster

/-- Characters that stand before the base of their cluster. -/
def prepend : CharSet := .ofTable [
    "600-605 6dd 70f 890-891 8e2 d4e 110bd 110cd 111c2-111c3 113d1 1193f 11941 11a3a 11a84-11a89",
    "11d46 11f02"]

/-- Characters that extend the cluster before them. -/
def extend : CharSet := (graphemeExtend.union emojiModifier).diff zeroWidthJoiner

/-- Spacing marks that stay in the cluster before them. -/
def spacing : CharSet :=
  (spacingMark.union (.ofTable ["e33 eb3"])).diff (graphemeExtend.union (.ofTable [
      "102b-102c 1038 1062-1064 1067-106d 1083 1087-108c 108f 109a-109c 1a61 1a63-1a64 aa7b aa7d",
      "11720-11721"]))

/-- Control characters and ignorable code points that are not assigned. -/
def controls : CharSet :=
  (CharSet.unions [lineSeparator, paragraphSeparator, control, format,
    unassigned.inter defaultIgnorable]).diff
      (.unions [prepend, extend, .ofTable ["a d 200c-200d"]])

/-- Hangul syllables without a final consonant, one in every twenty-eight. -/
def openSyllable : CharSet :=
  .ofRanges ((List.range 399).map fun i => ⟨0xac00 + 28 * i, 0xac00 + 28 * i⟩)

/-- A class of characters in clusters by one of its names, in lower case without blanks. -/
def named? : String → Option CharSet
  | "cn" | "control" => some controls
  | "cr" => some (.ofTable ["d"])
  | "ex" | "extend" => some extend
  | "l" => some (.ofTable ["1100-115f a960-a97c"])
  | "lf" => some (.ofTable ["a"])
  | "lv" => some openSyllable
  | "lvt" => some ((CharSet.ofTable ["ac00-d7a3"]).diff openSyllable)
  | "pp" | "prepend" => some prepend
  | "ri" | "regionalindicator" => some regionalIndicator
  | "sm" | "spacingmark" => some spacing
  | "t" => some (.ofTable ["11a8-11ff d7cb-d7fb"])
  | "v" => some (.ofTable ["1160-11a7 d7b0-d7c6 16d63 16d67-16d6a"])
  | "zwj" => some zeroWidthJoiner
  | _ => none

end Cluster

namespace WordPart

/-- Characters that extend the word part before them. -/
def extend : CharSet := attached.union (emojiModifier.diff zeroWidthJoiner)

/-- Hebrew letters. -/
def hebrewLetter : CharSet := .ofTable [
    "5d0-5ea 5ef-5f2 fb1d fb1f-fb28 fb2a-fb36 fb38-fb3c fb3e fb40-fb41 fb43-fb44 fb46-fb4f"]

/-- Katakana and the marks used with it. -/
def katakana : CharSet := .ofTable [
    "3031-3035 309b-309c 30a0-30fa 30fc-30ff 31f0-31ff 32d0-32fe 3300-3357 ff66-ff9d 1aff0-1aff3",
    "1aff5-1affb 1affd-1affe 1b000 1b120-1b122 1b155 1b164-1b167"]

/-- Letters of scripts that are written without blanks between words. -/
def unspaced : CharSet := .ofTable [
    "e01-e30 e32-e33 e40-e46 e81-e82 e84 e86-e8a e8c-ea3 ea5 ea7-eb0 eb2-eb3 ebd ec0-ec4 ec6",
    "edc-edf 1000-102a 103f 1050-1055 105a-105d 1061 1065-1066 106e-1070 1075-1081 108e 1780-17b3",
    "17d7 17dc 1950-196d 1970-1974 1980-19ab 19b0-19c9 1a20-1a54 1aa7 a9e0-a9e4 a9e6-a9ef",
    "a9fa-a9fe aa60-aa76 aa7a aa7e-aaaf aab1 aab5-aab6 aab9-aabd aac0 aac2 aadb-aadd 11700-1171a",
    "11740-11746"]

/-- Characters of words that are not alphabetic. -/
def letterLike : CharSet := .ofTable [
    "2c2-2c5 2d2-2d7 2de-2df 2e5-2eb 2ed 2ef-2ff 55a-55c 55e 58a 5f3 70f a708-a716 a720-a721",
    "a789-a78a ab5b"]

/-- Letters of scripts that part words. -/
def letters : CharSet :=
  (alphabetic.diff (.unions [extend, hebrewLetter, katakana, ideographic, unspaced,
    (Script.named? "hiragana").getD .empty])).union letterLike

/-- Digits, and marks that stand before them. -/
def numeric : CharSet :=
  (CharSet.unions [decimalNumber, prependedConcatenationMark, .ofTable ["66b"]]).diff
    (.ofTable ["70f"])

/-- A class of characters in words by one of its names, in lower case without blanks. -/
def named? : String → Option CharSet
  | "aletter" | "le" => some letters
  | "cr" => some (.ofTable ["d"])
  | "doublequote" | "dq" => some (.ofTable ["22"])
  | "extend" => some extend
  | "extendnumlet" | "ex" => some (.ofTable ["5f 202f 203f-2040 2054 fe33-fe34 fe4d-fe4f ff3f"])
  | "fo" | "format" => some plainFormat
  | "hebrewletter" | "hl" => some hebrewLetter
  | "ka" | "katakana" => some katakana
  | "lf" => some (.ofTable ["a"])
  | "midletter" | "ml" => some (.ofTable ["3a b7 387 55f 5f4 2027 fe13 fe55 ff1a"])
  | "midnum" | "mn" =>
    some (.ofTable ["2c 3b 37e 589 60c-60d 66c 7f8 2044 fe10 fe14 fe50 fe54 ff0c ff1b"])
  | "mb" | "midnumlet" => some (.ofTable ["2e 2018-2019 2024 fe52 ff07 ff0e"])
  | "newline" | "nl" => some (.ofTable ["b-c 85 2028-2029"])
  | "nu" | "numeric" => some numeric
  | "ri" | "regionalindicator" => some regionalIndicator
  | "singlequote" | "sq" => some (.ofTable ["27"])
  | "wsegspace" => some (.ofTable ["20 1680 2000-2006 2008-200a 205f 3000"])
  | "zwj" => some zeroWidthJoiner
  | _ => none

end WordPart

namespace SentencePart

/-- Characters that extend the sentence part before them. -/
def extend : CharSet := attached.union zeroWidthJoiner

/-- Full stops. -/
def fullStop : CharSet := .ofTable ["2e 2024 fe52 ff0e"]

/-- Lowercase letters. -/
def lower : CharSet := lowercase.diff (extend.union (.ofTable ["10d0-10fa 10fd-10ff"]))

/-- Uppercase and titlecase letters. -/
def upper : CharSet := (uppercase.union titlecaseLetter).diff (.ofTable ["1c90-1cba 1cbd-1cbf"])

/-- Other letters. -/
def otherLetters : CharSet :=
  (alphabetic.union (.ofTable ["5f3 70f"])).diff (.unions [lower, upper, extend])

/-- Quotes and brackets. -/
def closing : CharSet :=
  .unions [openPunctuation, closePunctuation, initialPunctuation, finalPunctuation,
    .ofTable ["22 27 275b-2760 2e00-2e01 2e06-2e08 2e0b 1f676-1f678"]]

/-- A class of characters in sentences by one of its names, in lower case without blanks. -/
def named? : String → Option CharSet
  | "at" | "aterm" => some fullStop
  | "cr" => some (.ofTable ["d"])
  | "cl" | "close" => some closing
  | "ex" | "extend" => some extend
  | "fo" | "format" => some (plainFormat.union (.ofTable ["200b"]))
  | "lf" => some (.ofTable ["a"])
  | "lo" | "lower" => some lower
  | "nu" | "numeric" => some (WordPart.numeric.union (.ofTable ["66c"]))
  | "le" | "oletter" => some otherLetters
  | "sc" | "scontinue" => some (.ofTable [
      "2c-2d 3a-3b 37e 55d 60c-60d 7f8 1802 1808 2013-2014 3001 fe10-fe11 fe13-fe14 fe31-fe32",
      "fe50-fe51 fe54-fe55 fe58 fe63 ff0c-ff0d ff1a-ff1b ff64"])
  | "st" | "sterm" => some (sentenceTerminal.diff fullStop)
  | "se" | "sep" => some (.ofTable ["85 2028-2029"])
  | "sp" => some (.ofTable ["9 b-c 20 a0 1680 2000-200a 202f 205f 3000"])
  | "up" | "upper" => some upper
  | _ => none

end SentencePart

end FlowScript.Text
