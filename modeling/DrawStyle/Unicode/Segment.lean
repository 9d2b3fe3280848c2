import DrawStyle.Unicode.Property
import DrawStyle.Unicode.Script

/-!
How a text falls into characters, words and sentences.

Each of these divisions has classes of characters, between which its rules tell where a text may
be cut.
-/

namespace DrawStyle.Unicode

def scriptNamed (name : String) : CharSet := (scripts.set? name.toList).getD .empty

/-! ### Characters as a reader sees them -/

def characterExtend : CharSet := graphemeExtend.union emojiModifier

def joiner : CharSet := .single '\u200d'

def characterControl : CharSet :=
  (CharSet.unions [lineSeparator, paragraphSeparator, control, format,
    unassigned.intersection defaultIgnorable]).difference
      (.unions [.ofList ['\r', '\n'], joiner, prependedConcatenationMark, characterExtend])

def characterPrepend : CharSet := prependedConcatenationMark.union (ofTable
   ["3406 1 66675 2 525 1 1389 1 1 1 248 1 73 6 700 1 443 1"])

def characterMark : CharSet := (spacingMark.difference graphemeExtend).symmetricDifference (ofTable
   ["3635 1 127 1 375 2 11 1 41 3 2 7 21 1 3 6 2 1 10 3 2500 1 1 2 36886 1 1 1 27810 2"])

def hangulOpen : CharSet :=
  ⟨(List.range 399).map fun k => ⟨0xAC00 + 28 * k, 0xAC00 + 28 * k⟩⟩

def hangulClosed : CharSet := CharSet.difference ⟨[⟨0xAC00, 0xD7A3⟩]⟩ hangulOpen

/-- The classes that make characters as a reader sees them, by their names. -/
def characterClasses : SetTable :=
   [("cr", .single '\r'), ("lf", .single '\n'), ("cn control", characterControl),
    ("ex extend", characterExtend), ("pp prepend", characterPrepend),
    ("sm spacingmark", characterMark), ("ri regionalindicator", regionalIndicator), ("zwj", joiner),
    ("lv", hangulOpen), ("lvt", hangulClosed), ("l", ofTable ["4352 96 38912 29"]),
    ("v", ofTable ["4448 72 50696 23 38300 1 3 4"]), ("t", ofTable ["4520 88 50635 49"])]

/-! ### Words -/

def wordExtend : CharSet :=
  (CharSet.unions [graphemeExtend, spacingMark, emojiModifier]).difference joiner

def wordFormat : CharSet :=
  format.difference
    (.unions [.range '\u200b' '\u200d', prependedConcatenationMark, wordExtend])

def wordNumeric : CharSet := decimalNumber.union (ofTable
   ["1536 6 101 1 113 1 434 2 80 1 4343 1 63202 1 15 1"])

def wordKatakana : CharSet := ofTable
   ["12337 5 101 2 3 91 1 4 240 16 208 47 1 88 52238 56 45138 4 1 7 1 2 1 1 287 3 50 1 14 4"]

def wordHebrew : CharSet := ofTable
   ["1488 27 4 4 62762 1 1 10 1 13 1 5 1 1 1 2 1 2 1 10"]

def wordLetter : CharSet :=
  (alphabetic.difference (.unions [ideographic, wordKatakana, wordHebrew, wordExtend,
    scriptNamed "thai", scriptNamed "lao", scriptNamed "hiragana"])).symmetricDifference (ofTable
   ["706 4 12 6 6 2 5 7 1 1 1 17 602 3 1 1 43 1 104 1 283 1 2288 43 20 1 16 6 4 4 3 1 3 2 7 3",
    "4 13 12 1 1777 52 35 1 4 1 371 30 2 5 11 44 4 26 86 53 82 1 35936 15 9 2 103 2 597 5 1 10",
    "10 5 97 23 3 1 3 50 1 1 3 2 2 5 2 1 1 1 24 3 125 1 27556 27 37 7"])

def wordClasses : SetTable :=
   [("cr", .single '\r'),
    ("lf", .single '\n'),
    ("nl newline", ofTable ["11 2 120 1 8098 2"]),
    ("extend", wordExtend),
    ("zwj", joiner),
    ("fo format", wordFormat),
    ("ka katakana", wordKatakana),
    ("hl hebrewletter", wordHebrew),
    ("le aletter", wordLetter),
    ("sq singlequote", .single '\''),
    ("dq doublequote", .single '"'),
    ("nu numeric", wordNumeric),
    ("ri regionalindicator", regionalIndicator),
    ("mb midnumlet", ofTable ["46 1 8169 2 10 1 56877 1 180 1 6 1"]),
    ("ml midletter", ofTable ["58 1 124 1 719 1 471 1 148 1 6706 1 56811 1 65 1 196 1"]),
    ("mn midnum", ofTable
       ["44 1 14 1 834 1 522 1 130 2 94 1 395 1 6219 1 56843 1 3 1 183 1 14 1"]),
    ("ex extendnumlet", ofTable ["95 1 8143 1 15 2 19 1 56798 2 24 3 239 1"]),
    ("wsegspace", ofTable ["32 1 5727 1 2431 7 1 3 84 1 4000 1"])]

/-! ### Sentences -/

def sentenceExtend : CharSet := .unions [graphemeExtend, spacingMark, joiner]

def sentenceFormat : CharSet :=
  (format.difference (CharSet.unions [prependedConcatenationMark, sentenceExtend])).union
    (.single '\u070f')

def sentenceBlank : CharSet :=
  whiteSpace.difference (.ofList ['\r', '\n', '\x85', '\u2028', '\u2029'])

def sentenceLower : CharSet := lowercase.symmetricDifference (ofTable
   ["837 1 3466 43 2 3"])

def sentenceUpper : CharSet := (uppercase.union titlecaseLetter).symmetricDifference (ofTable
   ["7312 43 2 3"])

def sentenceLetter : CharSet :=
  (alphabetic.difference (.unions [sentenceLower, sentenceUpper, sentenceExtend])).union
    (.single '\u05f3')

def sentenceNumeric : CharSet := decimalNumber.union (ofTable
   ["1536 6 101 2 112 1 434 2 80 1 4343 1 63202 1 15 1"])

def sentenceStop : CharSet := ofTable
   ["46 1 8181 1 56877 1 187 1"]

def sentenceEnd : CharSet := sentenceTerminal.difference sentenceStop

def sentenceBracket : CharSet :=
  (CharSet.unions [openPunctuation, closePunctuation, quotationMark]).symmetricDifference (ofTable
   ["10075 6 1695 14 14 2 2 2 53472 1 4 1 63342 3"])

def sentenceClasses : SetTable :=
   [("cr", .single '\r'),
    ("lf", .single '\n'),
    ("ex extend", sentenceExtend),
    ("se sep", .ofList ['\x85', '\u2028', '\u2029']),
    ("fo format", sentenceFormat),
    ("sp", sentenceBlank),
    ("lo lower", sentenceLower),
    ("up upper", sentenceUpper),
    ("le oletter", sentenceLetter),
    ("nu numeric", sentenceNumeric),
    ("at aterm", sentenceStop),
    ("st sterm", sentenceEnd),
    ("cl close", sentenceBracket),
    ("sc scontinue", ofTable
       ["44 2 12 2 834 1 478 1 174 2 490 1 4105 1 5 1 2058 2 4076 1 52750 2 1 2 28 2 29 2 2 2 2 1",
        "10 1 168 2 12 2 72 1"])]

end DrawStyle.Unicode
