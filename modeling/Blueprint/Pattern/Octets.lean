import Blueprint.Text.CharSet

/-!
# Encodings of sets of characters

The encodings of a range of characters in UTF-8, as rows of ranges of octets: a
row stands for all encodings whose octets lie in its ranges, one by one.  A range
of characters is cut where the encodings change their length, and then where that
is needed for all of its last octets to be free.
-/

namespace Blueprint.Pattern

open Text (CharSet CodeRange)

/-- The octets between two, ends included. -/
structure OctetRange where
  /-- The first octet. -/
  first : Nat
  /-- The last octet. -/
  last : Nat
deriving DecidableEq

/-- Encodings of one length, by the ranges of their octets. -/
abbrev OctetRow := List OctetRange

namespace OctetRow

/-- The octets that encode a code point. -/
def octets (code : Nat) : List Nat :=
  if code < 0x80 then [code]
  else if code < 0x800 then [0xC0 + code / 0x40, 0x80 + code % 0x40]
  else if code < 0x10000 then
    [0xE0 + code / 0x1000, 0x80 + code / 0x40 % 0x40, 0x80 + code % 0x40]
  else
    [0xF0 + code / 0x40000, 0x80 + code / 0x1000 % 0x40, 0x80 + code / 0x40 % 0x40,
     0x80 + code % 0x40]

/-- The row of a range in which each octet is free from the others. -/
def ofRange (range : CodeRange) : OctetRow :=
  List.zipWith (fun first last => ⟨first, last⟩) (octets range.first) (octets range.last)

/-- Cut a range so that no part of it both begins or ends within a block and goes
beyond it, for blocks of a size and for those 64 times as big, `levels` times. -/
def cut : (levels block first last : Nat) → List CodeRange
  | 0, _, first, last => [⟨first, last⟩]
  | levels + 1, block, first, last =>
      if first / block = last / block then [⟨first, last⟩]
      else
        let start := if first % block = 0 then first else (first / block + 1) * block
        let before : List CodeRange := if first = start then [] else [⟨first, start - 1⟩]
        if start / block = last / block then before ++ [⟨start, last⟩]
        else
          let stop := if (last + 1) % block = 0 then last + 1 else last / block * block
          let after : List CodeRange := if stop = last + 1 then [] else [⟨stop, last⟩]
          before ++ cut levels (64 * block) start (stop - 1) ++ after

/-- The characters with encodings of one length. -/
def lengthRanges : List CodeRange :=
  [⟨0, 0x7F⟩, ⟨0x80, 0x7FF⟩, ⟨0x800, 0xD7FF⟩, ⟨0xE000, 0xFFFF⟩, ⟨0x10000, 0x10FFFF⟩]

/-- The rows of a range of characters, in order. -/
def ofCodeRange (range : CodeRange) : List OctetRow :=
  lengthRanges.flatMap fun bounds =>
    let first := max bounds.first range.first
    let last := min bounds.last range.last
    if last < first then []
    else if last < 0x80 then [[⟨first, last⟩]]
    else (cut 3 64 first last).map ofRange

/-- The rows of a set of characters, in order. -/
def ofCharSet (set : CharSet) : List OctetRow :=
  set.ranges.flatMap ofCodeRange

end OctetRow

end Blueprint.Pattern
