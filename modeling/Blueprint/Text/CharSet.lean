/-!
# Sets of characters

A set of characters is kept as a list of ranges of code points, in order and
with a gap between neighbours, so that equal sets have equal lists.  The code
points that are no characters lie between `D7FF` and `E000`; the two count as
neighbours, and a range may run across the hole.

Ranges can be written in hexadecimal, as in `30-39 5F`.
-/

namespace Blueprint.Text

/-- The code points between two, ends included. -/
structure CodeRange where
  /-- The first code point. -/
  first : Nat
  /-- The last code point. -/
  last : Nat
deriving DecidableEq

namespace CodeRange

/-- The greatest code point. -/
def greatest : Nat := 0x10FFFF

/-- The code point after one, past the hole. -/
def following (code : Nat) : Nat :=
  if code = 0xD7FF then 0xE000 else code + 1

/-- The code point before one, past the hole. -/
def preceding (code : Nat) : Nat :=
  if code = 0xE000 then 0xD7FF else code - 1

/-- Whether a code point lies in a range. -/
def contains (range : CodeRange) (code : Nat) : Bool :=
  range.first ≤ code && code ≤ range.last

/-- Join ranges that touch or overlap, given the range that is growing and the
ones after it in order of their starts. -/
def joinFrom (current : CodeRange) : List CodeRange → List CodeRange
  | [] => [current]
  | next :: rest =>
      if next.first ≤ following current.last then
        joinFrom ⟨current.first, max current.last next.last⟩ rest
      else current :: joinFrom next rest

/-- Join ranges that touch or overlap, given in order of their starts. -/
def join : List CodeRange → List CodeRange
  | [] => []
  | first :: rest => joinFrom first rest

/-- What separated ranges in order leave free, from a code point on. -/
def gapsFrom (start : Nat) : List CodeRange → List CodeRange
  | [] => if start ≤ greatest then [⟨start, greatest⟩] else []
  | range :: rest =>
      let gaps := gapsFrom (following range.last) rest
      if start < range.first then ⟨start, preceding range.first⟩ :: gaps else gaps

end CodeRange

/-- The value of a hexadecimal digit. -/
def hexDigit? (char : Char) : Option Nat :=
  if char.isDigit then some (char.toNat - '0'.toNat)
  else if 'a' ≤ char ∧ char ≤ 'f' then some (char.toNat - 'a'.toNat + 10)
  else if 'A' ≤ char ∧ char ≤ 'F' then some (char.toNat - 'A'.toNat + 10)
  else none

/-- The value of hexadecimal digits; other characters do not count. -/
def hexValue (digits : List Char) : Nat :=
  (digits.filterMap hexDigit?).foldl (fun value digit => 16 * value + digit) 0

/-- A set of characters. -/
structure CharSet where
  /-- The ranges in order, with a gap between neighbours. -/
  ranges : List CodeRange
deriving DecidableEq

namespace CharSet

/-- Membership. -/
def contains (set : CharSet) (char : Char) : Bool :=
  set.ranges.any (·.contains char.toNat)

/-- No character. -/
def empty : CharSet := ⟨[]⟩

/-- Every character. -/
def all : CharSet := ⟨[⟨0, CodeRange.greatest⟩]⟩

/-- The characters of two code points and those between them. -/
def range (first last : Nat) : CharSet := ⟨[⟨first, last⟩]⟩

/-- A single character. -/
def single (char : Char) : CharSet := range char.toNat char.toNat

/-- The characters of ranges in any order. -/
def ofRanges (ranges : List CodeRange) : CharSet :=
  ⟨CodeRange.join (ranges.mergeSort fun left right => left.first ≤ right.first)⟩

/-- The characters in one of two sets. -/
def union (left right : CharSet) : CharSet :=
  ⟨CodeRange.join
    (List.merge left.ranges right.ranges fun first second => first.first ≤ second.first)⟩

/-- The characters in one of several sets. -/
def unions (sets : List CharSet) : CharSet :=
  ofRanges (sets.flatMap (·.ranges))

/-- The characters that are not in a set. -/
def compl (set : CharSet) : CharSet :=
  ⟨CodeRange.gapsFrom 0 set.ranges⟩

/-- The characters in both of two sets. -/
def inter (left right : CharSet) : CharSet :=
  (left.compl.union right.compl).compl

/-- The characters in the first of two sets and not in the second. -/
def diff (left right : CharSet) : CharSet :=
  left.inter right.compl

/-- The character of a set that has just one. -/
def single? (set : CharSet) : Option Char :=
  match set.ranges with
  | [⟨first, last⟩] => if first = last then some (Char.ofNat first) else none
  | _ => none

/-- Whether all characters of a set are ASCII. -/
def isAscii (set : CharSet) : Bool :=
  set.ranges.all (·.last < 128)

/-- A range from its hexadecimal notation. -/
def readRange (word : String) : CodeRange :=
  match word.splitOn "-" with
  | [first, last] => ⟨hexValue first.toList, hexValue last.toList⟩
  | _ => ⟨hexValue word.toList, hexValue word.toList⟩

/-- The characters of ranges in hexadecimal notation. -/
def ofHex (lines : List String) : CharSet :=
  ofRanges ((lines.flatMap (·.splitOn " ")).map readRange)

end CharSet

end Blueprint.Text
