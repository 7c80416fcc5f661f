import Blueprint.Text.Property
import Blueprint.Text.Script

/-!
# Boundaries of graphemes, words and sentences

Three properties with one value for every character say between which characters
a grapheme, a word or a sentence may end.  Each is given by rules in order: a
character has the value of the first rule whose set holds it, and no value of
interest if there is none.  The rules are those of Unicode 16.0.
-/

namespace Blueprint.Text

/-- A property with several values: the names of each value, without case, blanks,
hyphens and underscores, and its characters, unless an earlier rule holds them. -/
abbrev BreakRules := List (List String × CharSet)

namespace BreakRules

/-- The characters of a value, given those that earlier rules hold. -/
def charSetAfter? (name : String) (taken : CharSet) : BreakRules → Option CharSet
  | [] => none
  | (names, set) :: rest =>
      if names.contains name then some (set.diff taken)
      else charSetAfter? name (taken.union set) rest

/-- The characters of a value. -/
def charSet? (rules : BreakRules) (name : String) : Option CharSet :=
  charSetAfter? name .empty rules

end BreakRules

/-- Signs before numbers, which are digits to words and sentences. -/
def numberSigns : CharSet :=
  .ofHex ["600-605 66B 6DD 890-891 8E2 19DA 110BD 110CD"]

/-- The characters of a value of grapheme cluster breaks. -/
def graphemeBreak? (name : String) : Option CharSet :=
  BreakRules.charSet?
    [(["cr"], .ofHex ["D"]),
     (["lf"], .ofHex ["A"]),
     (["zwj"], .ofHex ["200D"]),
     (["extend", "ex"],
      (Property.charSet .graphemeExtend).union (Property.charSet .emojiModifier)),
     (["prepend", "pp"],
      (Property.charSet .prependedConcatenationMark).union
        (.ofHex ["D4E 111C2-111C3 113D1 1193F 11941 11A84-11A89 11D46 11F02"])),
     (["control", "cn"],
      (Category.charSet ["Zl", "Zp", "Cc", "Cf"]).union
        ((Category.charSet ["Cn"]).inter (Property.charSet .defaultIgnorable))),
     (["regionalindicator", "ri"], Property.charSet .regionalIndicator),
     (["spacingmark", "sm"],
      ((Category.charSet ["Mc"]).union (.ofHex ["E33 EB3"])).diff
        (.ofHex
          ["102B-102C 1038 1062-1064 1067-106D 1083 1087-108C 108F 109A-109C 1A61 1A63-1A64",
           "AA7B AA7D 11720-11721"])),
     (["l"], .ofHex ["1100-115F A960-A97C"]),
     (["v"], .ofHex ["1160-11A7 D7B0-D7C6 16D63 16D67-16D6A"]),
     (["t"], .ofHex ["11A8-11FF D7CB-D7FB"]),
     (["lv"], .ofCodes ((List.range 399).map fun index => 0xAC00 + 28 * index)),
     (["lvt"], .ofHex ["AC00-D7A3"])]
    name

/-- The characters of a value of word breaks. -/
def wordBreak? (name : String) : Option CharSet :=
  BreakRules.charSet?
    [(["cr"], .ofHex ["D"]),
     (["lf"], .ofHex ["A"]),
     (["newline", "nl"], .ofHex ["B-C 85 2028-2029"]),
     (["zwj"], .ofHex ["200D"]),
     (["extend"],
      CharSet.unions
        [Property.charSet .graphemeExtend, Category.charSet ["Mc"],
         Property.charSet .emojiModifier]),
     (["regionalindicator", "ri"], Property.charSet .regionalIndicator),
     (["numeric", "nu"], (Category.charSet ["Nd"]).union numberSigns),
     (["format", "fo"], (Category.charSet ["Cf"]).diff (.ofHex ["70F 200B"])),
     (["katakana", "ka"],
      (Script.charSet ["Kana"]).union (.ofHex ["3031-3035 309B-309C 30A0 30FC FF70"])),
     (["hebrewletter", "hl"], (Script.charSet ["Hebr"]).inter (Category.charSet ["Lo"])),
     (["singlequote", "sq"], .ofHex ["27"]),
     (["doublequote", "dq"], .ofHex ["22"]),
     (["midnumlet", "mb"], .ofHex ["2E 2018-2019 2024 FE52 FF07 FF0E"]),
     (["midletter", "ml"], .ofHex ["3A B7 387 55F 5F4 2027 FE13 FE55 FF1A"]),
     (["midnum", "mn"],
      .ofHex
        ["2C 3B 37E 589 60C-60D 66C 7F8 2044 FE10 FE14 FE50 FE54 FF0C FF1B"]),
     (["extendnumlet", "ex"], (Category.charSet ["Pc"]).union (.ofHex ["202F"])),
     (["aletter", "le"],
      ((Property.charSet .alphabetic).union
        (.ofHex
          ["2C2-2C5 2D2-2D7 2DE-2DF 2E5-2EB 2ED 2EF-2FF 55A-55C 55E 58A 5F3 70F A708-A716",
           "A720-A721 A789-A78A AB5B"])).diff
        ((Property.charSet .ideographic).union
          (Script.charSet
            ["Hira", "Thai", "Laoo", "Mymr", "Khmr", "Tale", "Talu", "Lana", "Tavt", "Ahom"]))),
     (["wsegspace"], (Category.charSet ["Zs"]).diff (.ofHex ["A0 2007 202F"]))]
    name

/-- The characters of a value of sentence breaks. -/
def sentenceBreak? (name : String) : Option CharSet :=
  BreakRules.charSet?
    [(["cr"], .ofHex ["D"]),
     (["lf"], .ofHex ["A"]),
     (["sep", "se"], .ofHex ["85 2028-2029"]),
     (["extend", "ex"],
      CharSet.unions
        [Property.charSet .graphemeExtend, Category.charSet ["Mc"], .ofHex ["200D"]]),
     (["numeric", "nu"],
      CharSet.unions [Category.charSet ["Nd"], numberSigns, .ofHex ["66C"]]),
     (["format", "fo"], Category.charSet ["Cf"]),
     (["sp"], Property.charSet .whiteSpace),
     (["lower", "lo"],
      (Property.charSet .lowercase).diff (.ofHex ["10D0-10FA 10FD-10FF"])),
     (["upper", "up"],
      ((Property.charSet .uppercase).diff (.ofHex ["1C90-1CBF"])).union
        (Category.charSet ["Lt"])),
     (["oletter", "le"], (Property.charSet .alphabetic).union (.ofHex ["5F3"])),
     (["aterm", "at"], .ofHex ["2E 2024 FE52 FF0E"]),
     (["scontinue", "sc"],
      .ofHex
        ["2C-2D 3A-3B 37E 55D 60C-60D 7F8 1802 1808 2013-2014 3001 FE10-FE11 FE13-FE14",
         "FE31-FE32 FE50-FE51 FE54-FE55 FE58 FE63 FF0C-FF0D FF1A-FF1B FF64"]),
     (["sterm", "st"], Property.charSet .sentenceTerminal),
     (["close", "cl"],
      (Category.charSet ["Ps", "Pe", "Pi", "Pf"]).union
        (.ofHex ["22 27 275B-2760 2E00-2E01 2E06-2E08 2E0B 1F676-1F678"]))]
    name

end Blueprint.Text
