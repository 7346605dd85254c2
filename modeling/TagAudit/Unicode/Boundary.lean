import TagAudit.Unicode.Derived
import TagAudit.Unicode.Script

/-! The classes of characters that decide where graphemes, words and sentences end. -/

namespace TagAudit.Unicode

open Derived

namespace Grapheme

def carriageReturn : CharSet := .single '\r'

def lineFeed : CharSet := .single '\n'

def joiners : CharSet := .range 0x200C 0x200D

def prepended : CharSet :=
  (withProperties ["prependedconcatenationmark"]).union (.ofTable
    "D4E 111C2-111C3 113D1 1193F 11941 11A3A 11A84-11A89 11D46 11F02")

def control : CharSet :=
  (CharSet.unionAll [inCategories ["zl", "zp", "cc", "cf"],
      defaultIgnorable.difference assigned]).difference
    (.unionAll [carriageReturn, lineFeed, joiners, .range 0xE0020 0xE007F,
      withProperties ["prependedconcatenationmark"]])

def extend : CharSet := graphemeExtend.union (withProperties ["emojimodifier"])

def spacelessMarks : CharSet := .ofTable
  "102B-102C 1038 1062-1064 1067-106D 1083 1087-108C 108F 109A-109C 1A61 1A63-1A64 AA7B AA7D
    11720-11721"

def spacingMark : CharSet :=
  ((inCategories ["mc"]).difference (graphemeExtend.union spacelessMarks)).union
    (.ofTable "E33 EB3")

def openSyllables : CharSet :=
  .ofRanges ((List.range 399).map fun i => ⟨0xAC00 + 28 * i, 0xAC00 + 28 * i⟩)

def closedSyllables : CharSet := (CharSet.range 0xAC00 0xD7A3).difference openSyllables

end Grapheme

open Grapheme in
def graphemeBreak? : String → Option CharSet
  | "cr" => some carriageReturn
  | "lf" => some lineFeed
  | "cn" | "control" => some control
  | "ex" | "extend" => some extend
  | "pp" | "prepend" => some prepended
  | "sm" | "spacingmark" => some spacingMark
  | "l" => some (.ofTable "1100-115F A960-A97C")
  | "v" => some (.ofTable "1160-11A7 D7B0-D7C6 16D63 16D67-16D6A")
  | "t" => some (.ofTable "11A8-11FF D7CB-D7FB")
  | "lv" => some openSyllables
  | "lvt" => some closedSyllables
  | "ri" | "regionalindicator" => some (.range 0x1F1E6 0x1F1FF)
  | "zwj" => some (.range 0x200D 0x200D)
  | _ => none

namespace SentencePart

def separator : CharSet := .ofTable "85 2028-2029"

/-- Signs that stand before numbers, and the tags. -/
def numberSigns : CharSet := .ofTable "600-605 6DD 890-891 8E2 110BD 110CD"

def tags : CharSet := .range 0xE0020 0xE007F

def extend : CharSet :=
  .unionAll [graphemeExtend, inCategories ["mc"], .range 0x200D 0x200D]

def format : CharSet :=
  (inCategories ["cf"]).difference (.unionAll [Grapheme.joiners, numberSigns, tags])

def space : CharSet :=
  (withProperties ["whitespace"]).difference (.unionAll [separator, .single '\r', .single '\n'])

def lower : CharSet :=
  lowercase.difference (graphemeExtend.union (.ofTable "10D0-10FA 10FD-10FF"))

def upper : CharSet :=
  (uppercase.union (inCategories ["lt"])).difference (.ofTable "1C90-1CBA 1CBD-1CBF")

def otherLetter : CharSet :=
  (alphabetic.union (.ofTable "5F3 200C-200D")).difference (.unionAll [lower, upper, extend])

def numeric : CharSet :=
  .unionAll [inCategories ["nd"], numberSigns, .ofTable "66B-66C 19DA"]

def fullStop : CharSet := .ofTable "2E 2024 FE52 FF0E"

def terminator : CharSet := (withProperties ["sentenceterminal"]).difference fullStop

def close : CharSet :=
  (((inCategories ["ps", "pe", "pi", "pf"]).union (withProperties ["quotationmark"])).difference
      (.unionAll [fullStop, terminator, .ofTable "FF02 FF07"])).union
    (.ofTable "275B-2760 2E00-2E01 2E06-2E08 2E0B 1F676-1F678")

def continuation : CharSet := .ofTable
  "2C-2D 3A-3B 37E 55D 60C-60D 7F8 1802 1808 2013-2014 3001 FE10-FE11 FE13-FE14 FE31-FE32
    FE50-FE51 FE54-FE55 FE58 FE63 FF0C-FF0D FF1A-FF1B FF64"

end SentencePart

open SentencePart in
def sentenceBreak? : String → Option CharSet
  | "cr" => some (.single '\r')
  | "lf" => some (.single '\n')
  | "se" | "sep" => some separator
  | "ex" | "extend" => some extend
  | "fo" | "format" => some format
  | "sp" => some space
  | "lo" | "lower" => some lower
  | "up" | "upper" => some upper
  | "le" | "oletter" => some otherLetter
  | "nu" | "numeric" => some numeric
  | "at" | "aterm" => some fullStop
  | "sc" | "scontinue" => some continuation
  | "st" | "sterm" => some terminator
  | "cl" | "close" => some close
  | _ => none

namespace WordPart

def extend : CharSet :=
  (CharSet.unionAll [graphemeExtend, inCategories ["mc"],
    withProperties ["emojimodifier"]]).difference (.range 0x200D 0x200D)

def format : CharSet :=
  (inCategories ["cf"]).difference (.unionAll [.range 0x200B 0x200D, SentencePart.numberSigns,
    .range 0x70F 0x70F, SentencePart.tags])

def numeric : CharSet := SentencePart.numeric.difference (.range 0x66C 0x66C)

def katakana : CharSet :=
  .unionAll [(script? "kana").getD .empty, .ofTable "3031-3035 309B-309C 30A0 30FC FF70"]

def hebrewLetter : CharSet :=
  ((script? "hebr").getD .empty).intersection (inCategories ["lo"])

def wordSpace : CharSet := (inCategories ["zs"]).difference (.ofTable "A0 2007 202F")

def extendNumberLetter : CharSet := (inCategories ["pc"]).union (.range 0x202F 0x202F)

def unspacedLetters : CharSet := .ofTable
  "E01-E30 E32-E33 E40-E46 E81-E82 E84 E86-E8A E8C-EA3 EA5 EA7-EB0 EB2-EB3 EBD EC0-EC4 EC6
    EDC-EDF 1000-102A 103F 1050-1055 105A-105D 1061 1065-1066 106E-1070 1075-1081 108E 1780-17B3
    17D7 17DC 1950-196D 1970-1974 1980-19AB 19B0-19C9 1A20-1A54 1AA7 A9E0-A9E4 A9E6-A9EF A9FA-A9FE
    AA60-AA76 AA7A AA7E-AAAF AAB1 AAB5-AAB6 AAB9-AABD AAC0 AAC2 AADB-AADD 11700-1171A 11740-11746"

def letterSigns : CharSet := .ofTable
  "2C2-2C5 2D2-2D7 2DE-2DF 2E5-2EB 2ED 2EF-2FF 55A-55C 55E 58A 5F3 70F A708-A716 A720-A721
    A789-A78A AB5B"

def letter : CharSet :=
  (alphabetic.difference (.unionAll [withProperties ["ideographic"], katakana,
    (script? "hira").getD .empty, extend, hebrewLetter, unspacedLetters])).union letterSigns

end WordPart

open WordPart in
def wordBreak? : String → Option CharSet
  | "cr" => some (.single '\r')
  | "lf" => some (.single '\n')
  | "nl" | "newline" => some (.ofTable "B-C 85 2028-2029")
  | "extend" => some extend
  | "zwj" => some (.range 0x200D 0x200D)
  | "fo" | "format" => some format
  | "ka" | "katakana" => some katakana
  | "hl" | "hebrewletter" => some hebrewLetter
  | "le" | "aletter" => some letter
  | "sq" | "singlequote" => some (.single '\'')
  | "dq" | "doublequote" => some (.single '"')
  | "mb" | "midnumlet" => some (.ofTable "2E 2018-2019 2024 FE52 FF07 FF0E")
  | "ml" | "midletter" => some (.ofTable "3A B7 387 55F 5F4 2027 FE13 FE55 FF1A")
  | "mn" | "midnum" =>
      some (.ofTable "2C 3B 37E 589 60C-60D 66C 7F8 2044 FE50 FE54 FF0C FF1B")
  | "nu" | "numeric" => some numeric
  | "ex" | "extendnumlet" => some extendNumberLetter
  | "ri" | "regionalindicator" => some (.range 0x1F1E6 0x1F1FF)
  | "wsegspace" => some wordSpace
  | _ => none

end TagAudit.Unicode
