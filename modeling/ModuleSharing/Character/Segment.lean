import ModuleSharing.Character.Derived
import ModuleSharing.Character.Script

/-!
# Where a text may be cut

The classes of characters that tell where graphemes, words and sentences end.
-/

namespace ModuleSharing.Character

/-! ## Graphemes -/

def graphemeExtender : CharSet := graphemeExtend.union emojiModifier

def graphemeControl : CharSet :=
  (CharSet.unions
    [categories ["Zl", "Zp", "Cc", "Cf"], (categories ["Cn"]).inter defaultIgnorable]).diff
    (.unions [.ofText "A D 200C-200D", prependedConcatenationMark, graphemeExtender])

def graphemeSpacingMark : CharSet :=
  ((categories ["Mc"]).union (.ofText "E33 EB3")).diff
    (.unions [graphemeExtender, .ofLines
      ["102B-102C 1038 1062-1064 1067-106D 1083 1087-108C 108F 109A-109C 1A61 1A63-1A64 AA7B",
        "AA7D 11720-11721"]])

def graphemePrepend : CharSet :=
  prependedConcatenationMark.union
    (.ofText "D4E 111C2-111C3 113D1 1193F 11941 11A3A 11A84-11A89 11D46 11F02")

/-- Syllables without a final consonant; each is the first one of a block of 28. -/
def openSyllable : CharSet := ⟨(List.range 399).map fun i => (0xAC00 + 28 * i, 0xAC00 + 28 * i)⟩

/-! ## Words -/

def wordExtender : CharSet :=
  (CharSet.unions [graphemeExtend, categories ["Mc"], emojiModifier]).diff (.ofText "200D")

def wordNumeric : CharSet :=
  (categories ["Nd"]).union (.ofText "600-605 66B 6DD 890-891 8E2 19DA 110BD 110CD")

def wordFormat : CharSet :=
  (categories ["Cf"]).diff (.unions [.ofText "70F 200B-200D", graphemeExtend, wordNumeric])

def katakanaLetter : CharSet :=
  (script "Kana").union (.ofText "3031-3035 309B-309C 30A0 30FC FF70")

def hebrewLetter : CharSet := (script "Hebr").inter (categories ["Lo"])

/-- Letters of scripts that set no blanks between words. -/
def unspacedLetter : CharSet := .ofLines
    ["E01-E30 E32-E33 E40-E46 E81-E82 E84 E86-E8A E8C-EA3 EA5 EA7-EB0 EB2-EB3 EBD EC0-EC4 EC6",
      "EDC-EDF 1000-102A 103F 1050-1055 105A-105D 1061 1065-1066 106E-1070 1075-1081 108E",
      "1780-17B3 17D7 17DC 1950-196D 1970-1974 1980-19AB 19B0-19C9 1A20-1A54 1AA7 A9E0-A9E4",
      "A9E6-A9EF A9FA-A9FE AA60-AA76 AA7A AA7E-AAAF AAB1 AAB5-AAB6 AAB9-AABD AAC0 AAC2",
      "AADB-AADD 11700-1171A 11740-11746"]

def wordLetter : CharSet :=
  (alphabetic.diff (.unions
    [ideographic, katakanaLetter, script "Hira", hebrewLetter, wordExtender, unspacedLetter])).union
    (.ofLines
      ["2C2-2C5 2D2-2D7 2DE-2DF 2E5-2EB 2ED 2EF-2FF 55A-55C 55E 58A 5F3 70F A708-A716",
        "A720-A721 A789-A78A AB5B"])

/-! ## Sentences -/

def fullStop : CharSet := .ofText "2E 2024 FE52 FF0E"

def sentenceExtender : CharSet := .unions [graphemeExtend, categories ["Mc"], .ofText "200D"]

def sentenceLower : CharSet :=
  lowercase.diff (sentenceExtender.union (.ofText "10D0-10FA 10FD-10FF"))

def sentenceUpper : CharSet :=
  (uppercase.union (categories ["Lt"])).diff (.ofText "1C90-1CBA 1CBD-1CBF")

def sentenceLetter : CharSet :=
  (alphabetic.union (.ofText "5F3")).diff
    (.unions [sentenceLower, sentenceUpper, sentenceExtender])

def sentenceClose : CharSet :=
  (CharSet.unions
    [categories ["Ps", "Pe", "Pi", "Pf"], quotationMark,
      .ofText "275B-2760 2E00-2E01 2E06-2E08 2E0B 1F676-1F678"]).diff
    (.ofText "FF02 FF07")

/-! ## Names -/

def graphemeClasses : List (List String × CharSet) :=
  [(["cn", "control"], graphemeControl),
    (["cr"], .ofText "D"),
    (["ex", "extend"], graphemeExtender),
    (["l"], .ofText "1100-115F A960-A97C"),
    (["lf"], .ofText "A"),
    (["lv"], openSyllable),
    (["lvt"], (CharSet.ofText "AC00-D7A3").diff openSyllable),
    (["pp", "prepend"], graphemePrepend),
    (["regionalindicator", "ri"], regionalIndicator),
    (["sm", "spacingmark"], graphemeSpacingMark),
    (["t"], .ofText "11A8-11FF D7CB-D7FB"),
    (["v"], .ofText "1160-11A7 D7B0-D7C6 16D63 16D67-16D6A"),
    (["zwj"], .ofText "200D")]

def wordClasses : List (List String × CharSet) :=
  [(["aletter", "le"], wordLetter),
    (["cr"], .ofText "D"),
    (["doublequote", "dq"], .ofText "22"),
    (["ex", "extendnumlet"], (categories ["Pc"]).union (.ofText "202F")),
    (["extend"], wordExtender),
    (["fo", "format"], wordFormat),
    (["hebrewletter", "hl"], hebrewLetter),
    (["ka", "katakana"], katakanaLetter),
    (["lf"], .ofText "A"),
    (["mb", "midnumlet"], .ofText "2E 2018-2019 2024 FE52 FF07 FF0E"),
    (["midletter", "ml"], .ofText "3A B7 387 55F 5F4 2027 FE13 FE55 FF1A"),
    (["midnum", "mn"], .ofText "2C 3B 37E 589 60C-60D 66C 7F8 2044 FE50 FE54 FF0C FF1B"),
    (["newline", "nl"], .ofText "B-C 85 2028-2029"),
    (["nu", "numeric"], wordNumeric),
    (["regionalindicator", "ri"], regionalIndicator),
    (["singlequote", "sq"], .ofText "27"),
    (["wsegspace"], (categories ["Zs"]).diff (.ofText "A0 2007 202F")),
    (["zwj"], .ofText "200D")]

def sentenceClasses : List (List String × CharSet) :=
  [(["at", "aterm"], fullStop),
    (["cl", "close"], sentenceClose),
    (["cr"], .ofText "D"),
    (["ex", "extend"], sentenceExtender),
    (["fo", "format"],
      (categories ["Cf"]).diff
        (.ofText "200C-200D 600-605 6DD 890-891 8E2 110BD 110CD E0020-E007F")),
    (["le", "oletter"], sentenceLetter),
    (["lf"], .ofText "A"),
    (["lo", "lower"], sentenceLower),
    (["nu", "numeric"],
      (categories ["Nd"]).union
        (.ofText "600-605 66B-66C 6DD 890-891 8E2 19DA 110BD 110CD")),
    (["sc", "scontinue"],
      .ofLines
        ["2C-2D 3A-3B 37E 55D 60C-60D 7F8 1802 1808 2013-2014 3001 FE10-FE11 FE13-FE14",
          "FE31-FE32 FE50-FE51 FE54-FE55 FE58 FE63 FF0C-FF0D FF1A-FF1B FF64"]),
    (["se", "sep"], .ofText "85 2028-2029"),
    (["sp"], whiteSpace.diff (.ofText "A D 85 2028-2029")),
    (["st", "sterm"], sentenceTerminal.diff fullStop),
    (["up", "upper"], sentenceUpper)]

end ModuleSharing.Character
