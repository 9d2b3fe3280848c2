import DrawStyle.Unicode.Script

/-!
Scripts with what they share.

Some characters that belong to no script of their own are used by a few scripts only. Each of
these scripts has them in its extension.
-/

namespace DrawStyle.Unicode

/-- What scripts have in their extensions beside their own characters. -/
def sharedCharacters : SetTable :=
   [("adlm adlam", ofTable
       ["1567 1 32 1 6670 1 3569 1"]),
    ("arab arabic", ofTable
       ["1548 1 14 1 3 1 32 1 10 11 26 1 6622 1 3569 1 52988 2 1440 28"]),
    ("armn armenian", ofTable
       ["776 1"]),
    ("avst avestan", ofTable
       ["183 1 11640 2"]),
    ("beng bengali", ofTable
       ["700 1 1684 2 17 2 4970 1 1 1 2 2 1 1 8 1 8 1 2 1 4 1 2 3 35833 1"]),
    ("bopo bopomofo", ofTable
       ["711 1 1 3 13 1 11559 3 4 10 1 13 10 4 2 1 6 1 195 1 52553 2 282 5"]),
    ("bugi buginese", ofTable
       ["43471 1"]),
    ("buhd buhid", ofTable
       ["5941 2"]),
    ("cari carian", ofTable
       ["183 1 8098 1 2 1 3539 1"]),
    ("aghb caucasianalbanian", ofTable
       ["772 1 44 1 44 1"]),
    ("cakm chakma", ofTable
       ["2534 10 1616 10"]),
    ("cher cherokee", ofTable
       ["768 3 1 1 6 2 22 2 11 2"]),
    ("copt qaac coptic", ofTable
       ["183 1 584 1 3 2 1 1 108 2 10913 1 54472 28"]),
    ("cprt cypriot", ofTable
       ["65792 3 4 45 3 9"]),
    ("cpmn cyprominoan", ofTable
       ["65792 2"]),
    ("cyrl cyrillic", ofTable
       ["700 1 67 3 1 1 1 1 1 1 2 1 5 1 371 2 6513 1 4170 1"]),
    ("deva devanagari", ofTable
       ["700 1 1684 2 17 2 4970 39 1 2 1014 1 34623 10"]),
    ("dogr dogra", ofTable
       ["2404 12 40640 10"]),
    ("dupl duployan", ofTable
       ["183 1 591 2 1 1 24 2 11031 1 101987 4"]),
    ("elba elbasan", ofTable
       ["183 1 589 1"]),
    ("ethi ethiopic", ofTable
       ["782 1"]),
    ("gara garay", ofTable
       ["1548 1 14 1 3 1"]),
    ("geor georgian", ofTable
       ["183 1 1233 1 2929 1 3934 1 3542 1"]),
    ("glag glagolitic", ofTable
       ["183 1 587 1 1 1 382 1 2 1 257 1 2929 1 3934 1 3560 1 30763 1"]),
    ("goth gothic", ofTable
       ["183 1 588 2 2 1 40 1"]),
    ("gran grantha", ofTable
       ["2385 2 17 2 640 14 4316 1 1 2 30 3 3 2 1014 1 62026 1 3220 2 1 1"]),
    ("grek greek", ofTable
       ["183 1 584 2 2 1 1 1 1 1 10 1 46 1 2 1 46 1 6731 2 667 1"]),
    ("gujr gujarati", ofTable
       ["2385 2 17 2 40650 10"]),
    ("gong gunjalagondi", ofTable
       ["183 1 2220 2"]),
    ("guru gurmukhi", ofTable
       ["2385 2 17 2 40650 10"]),
    ("gukh gurungkhema", ofTable
       ["2405 1"]),
    ("han hani", ofTable
       ["183 1 12088 16 1 3 2 1 1 10 1 13 10 4 2 1 6 1 4 4 187 1 148 16 32 38 9 1 48 40 56 49",
        "15 12 51 1 88 25 10 5 96 31 29441 8 22333 2 282 5 54266 18 7902 2"]),
    ("hang hangul", ofTable
       ["12289 3 4 10 1 13 16 1 6 1 195 1 52553 2 282 5"]),
    ("rohg hanifirohingya", ofTable
       ["1548 1 14 1 3 1 32 1 147 1"]),
    ("hano hanunoo", ofTable
       ["5941 2"]),
    ("hebr hebrew", ofTable
       ["775 2"]),
    ("hira hiragana", ofTable
       ["12289 3 4 10 1 13 16 6 1 1 4 2 91 4 3 1 90 2 52552 2 282 5 10 1 45 2"]),
    ("java javanese", ofTable
       ["43471 1"]),
    ("kthi kaithi", ofTable
       ["2406 10 9409 1 31230 10"]),
    ("knda kannada", ofTable
       ["2385 2 17 2 4970 1 1 2 6 1 23 1 1 1 35643 6"]),
    ("kana katakana", ofTable
       ["773 1 29 1 11485 3 4 10 1 13 16 6 1 1 4 2 91 4 3 1 90 2 52552 2 282 5 10 1 45 2"]),
    ("kali kayahli", ofTable
       ["43310 1"]),
    ("khoj khojki", ofTable
       ["2790 10 40256 10"]),
    ("sind khudawadi", ofTable
       ["2404 2 40650 10"]),
    ("latn latin", ofTable
       ["183 1 516 1 10 1 1 3 1 1 9 1 1 1 38 15 1 2 1 1 12 1 2 3 7 2 1 2 38 1 5 1 4 13 277 2",
        "1226 2 1960 1 3324 1 566 1 192 1 3366 1 30952 8 550 1"]),
    ("limb limbu", ofTable
       ["2405 1"]),
    ("lina lineara", ofTable
       ["65799 45"]),
    ("linb linearb", ofTable
       ["65792 3 4 45 3 9"]),
    ("lisu", ofTable
       ["700 1 16 1 11580 2"]),
    ("lyci lycian", ofTable
       ["8282 1"]),
    ("lydi lydian", ofTable
       ["183 1 11641 1"]),
    ("mahj mahajani", ofTable
       ["183 1 2220 12 40640 10"]),
    ("mlym malayalam", ofTable
       ["2385 2 17 2 4980 1 23 1 35645 3"]),
    ("mand mandaic", ofTable
       ["1600 1"]),
    ("mani manichaean", ofTable
       ["1600 1"]),
    ("gonm masaramgondi", ofTable
       ["2404 2"]),
    ("mero meroitichieroglyphs", ofTable
       ["8285 1"]),
    ("modi", ofTable
       ["43056 10"]),
    ("mong mongolian", ofTable
       ["6146 2 1 1 2089 1 4049 2 5 4"]),
    ("mult multani", ofTable
       ["2662 10"]),
    ("mymr myanmar", ofTable
       ["43310 1"]),
    ("nand nandinagari", ofTable
       ["2404 2 896 10 4089 1 8 1 7 1 35637 6"]),
    ("nko nkoo", ofTable
       ["1548 1 14 1 3 1 63262 2"]),
    ("onao olonal", ofTable
       ["2404 2"]),
    ("hung oldhungarian", ofTable
       ["8282 1 2 1 3539 1 15 1"]),
    ("perm oldpermic", ofTable
       ["183 1 584 1 5 3 10 1 367 1"]),
    ("orkh oldturkic", ofTable
       ["8282 1 3541 1"]),
    ("ougr olduyghur", ofTable
       ["1600 1 66737 1"]),
    ("orya oriya", ofTable
       ["2385 2 17 2 4980 1 23 1"]),
    ("osge osage", ofTable
       ["769 1 2 1 6 1 76 1"]),
    ("phag phagspa", ofTable
       ["6146 2 1 1 2089 1 4050 1"]),
    ("phlp psalterpahlavi", ofTable
       ["1600 1"]),
    ("runr runic", ofTable
       ["5867 3"]),
    ("samr samaritan", ofTable
       ["11825 1"]),
    ("shrd sharada", ofTable
       ["2385 1 4997 1 1 1 2 2 2 1 35663 6 2 1"]),
    ("shaw shavian", ofTable
       ["183 1"]),
    ("sinh sinhala", ofTable
       ["2404 2 5004 1"]),
    ("sogd sogdian", ofTable
       ["1600 1"]),
    ("sunu sunuwar", ofTable
       ["768 2 1 1 9 1 2 1 28 1 3 1"]),
    ("sylo sylotinagri", ofTable
       ["2404 2 128 10"]),
    ("syrc syriac", ofTable
       ["771 2 2 2 1 1 21 1 2 3 7 2 1 1 731 1 14 2 2 1 32 1 10 11 26 1 6023 1 1 1"]),
    ("tglg tagalog", ofTable
       ["5941 2"]),
    ("tagb tagbanwa", ofTable
       ["5941 2"]),
    ("tale taile", ofTable
       ["768 2 5 2 3 1 3379 10"]),
    ("takr takri", ofTable
       ["2404 2 40650 10"]),
    ("taml tamil", ofTable
       ["2385 2 17 2 4980 1 35864 1 27149 1 1 1 55 2"]),
    ("tang tangut", ofTable
       ["12272 16 495 1"]),
    ("telu telugu", ofTable
       ["2385 2 17 2 4980 1 23 1"]),
    ("thaa thaana", ofTable
       ["1548 1 14 2 2 1 64 10 63368 1 10 1"]),
    ("thai", ofTable
       ["700 1 26 1 43 1 45 1"]),
    ("tibt tibetan", ofTable
       ["12296 4"]),
    ("tfng tifinagh", ofTable
       ["770 1 1 1 2 1 1 1"]),
    ("tirh tirhuta", ofTable
       ["2385 2 17 2 5004 1 35645 10"]),
    ("todr todhri", ofTable
       ["769 1 2 1 2 1 9 1 1 1 74 1"]),
    ("toto", ofTable
       ["700 1"]),
    ("tutg tulutigalari", ofTable
       ["3302 10 4098 1 1 1 35643 6 187 1"]),
    ("yezi yezidi", ofTable
       ["1548 1 14 1 3 1 64 10"]),
    ("yi yiii", ofTable
       ["12289 2 5 10 2 8 223 1 52837 5"])]

/-- All characters that are in the extension of a script which is not their own. -/
def shared : CharSet := .unions (sharedCharacters.map Prod.snd)

def scriptExtension? (name : Text) : Option CharSet :=
  (scripts.set? name).map fun set =>
    if (["common", "zyyy", "inherited", "qaai", "zinh"].map String.toList).contains name then
      set.difference shared
    else set.union ((sharedCharacters.set? name).getD .empty)

end DrawStyle.Unicode
