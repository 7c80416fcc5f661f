import Blueprint.Text.CharSet

/-!
# Expressions of patterns

A pattern denotes an expression in a normal form: neighbouring literals are one
literal, a row has no rows or empty parts in it, a choice has no choices in it and
is a set of characters if it can be, and alternatives that begin alike share what
they begin with.  The functions `ofSet`, `inRow`, `oneOf` and `repeated` build
expressions of that form.
-/

namespace Blueprint.Pattern

open Text (CharSet)

/-- A condition on a position.  A word may be one of Unicode or of ASCII. -/
inductive Assertion where
  | textStart
  | textEnd
  /-- After a line feed or at the start. -/
  | lineStart
  /-- Before a line feed or at the end. -/
  | lineEnd
  /-- At the start or after a line end, where carriage return and line feed are one. -/
  | pairLineStart
  /-- At the end or before a line end, where carriage return and line feed are one. -/
  | pairLineEnd
  /-- Between a letter of a word and what is none. -/
  | boundary (unicode : Bool)
  | notBoundary (unicode : Bool)
  | wordStart (unicode : Bool)
  | wordEnd (unicode : Bool)
  /-- Not after a letter of a word. -/
  | notAfterWord (unicode : Bool)
  /-- Not before a letter of a word. -/
  | notBeforeWord (unicode : Bool)
deriving DecidableEq

/-- An expression. -/
inductive Expression where
  /-- The empty text. -/
  | empty
  /-- Characters in a row. -/
  | literal (chars : List Char)
  /-- One character of a set. -/
  | set (chars : CharSet)
  | assertion (condition : Assertion)
  /-- A body from `least` to `most` times, or without bound; few times if `lazy`. -/
  | repetition (body : Expression) (least : Nat) (most : Option Nat) (isLazy : Bool)
  /-- A group that is counted. -/
  | group (index : Nat) (body : Expression)
  | row (parts : List Expression)
  | choice (parts : List Expression)

namespace Expression

/-- The expression that matches nothing. -/
def nothing : Expression := .set .empty

/-! ## Sizes -/

/-- The number of octets that encode a code point. -/
def octetCount (code : Nat) : Nat :=
  if code < 0x80 then 1 else if code < 0x800 then 2 else if code < 0x10000 then 3 else 4

mutual

/-- The least number of octets of a match, if some text matches for certain. -/
def fewest : Expression → Option Nat
  | .empty => some 0
  | .literal chars => some ((chars.map fun char => octetCount char.toNat).sum)
  | .set chars => chars.ranges.head?.map fun range => octetCount range.first
  | .assertion _ => some 0
  | .repetition body least _ _ => body.fewest.map (· * least)
  | .group _ body => body.fewest
  | .row parts => fewestInRow parts
  | .choice parts => fewestOf parts

/-- The least number of octets of matches in a row. -/
def fewestInRow : List Expression → Option Nat
  | [] => some 0
  | part :: rest =>
      match part.fewest, fewestInRow rest with
      | some count, some others => some (count + others)
      | _, _ => none

/-- The least number of octets of a match of one of several parts. -/
def fewestOf : List Expression → Option Nat
  | [] => none
  | [part] => part.fewest
  | part :: rest =>
      match part.fewest, fewestOf rest with
      | some count, some others => some (min count others)
      | _, _ => none

end

mutual

/-- Whether only the empty text can match. -/
def isBlank : Expression → Bool
  | .empty => true
  | .literal chars => chars.isEmpty
  | .set _ => false
  | .assertion _ => true
  | .repetition body _ most _ => body.isBlank && most.isSome
  | .group _ body => body.isBlank
  | .row parts => areBlank parts
  | .choice parts => areBlank parts

/-- Whether only the empty text can match any of several parts. -/
def areBlank : List Expression → Bool
  | [] => true
  | part :: rest => part.isBlank && areBlank rest

end

mutual

/-- The number of parts, nested ones included. -/
def size : Expression → Nat
  | .repetition body _ _ _ => body.size + 1
  | .group _ body => body.size + 1
  | .row parts => sizeOfAll parts + 1
  | .choice parts => sizeOfAll parts + 1
  | _ => 1

/-- The number of parts of several expressions. -/
def sizeOfAll : List Expression → Nat
  | [] => 0
  | part :: rest => part.size + sizeOfAll rest

end

/-! ## Comparison -/

mutual

/-- Whether two expressions are the same. -/
def same : Expression → Expression → Bool
  | .empty, .empty => true
  | .literal left, .literal right => left == right
  | .set left, .set right => left == right
  | .assertion left, .assertion right => left == right
  | .repetition left least most isLazy, .repetition right least' most' isLazy' =>
      least == least' && most == most' && isLazy == isLazy' && left.same right
  | .group index left, .group index' right => index == index' && left.same right
  | .row left, .row right => sameAll left right
  | .choice left, .choice right => sameAll left right
  | _, _ => false

/-- Whether two lists hold the same expressions. -/
def sameAll : List Expression → List Expression → Bool
  | [], [] => true
  | left :: lefts, right :: rights => left.same right && sameAll lefts rights
  | _, _ => false

end

/-! ## Building -/

/-- One character of a set. -/
def ofSet (chars : CharSet) : Expression :=
  match chars.single? with
  | some char => .literal [char]
  | none => .set chars

/-- Join neighbouring literals. -/
def joinLiterals : List Expression → List Expression
  | [] => []
  | .literal chars :: rest =>
      match joinLiterals rest with
      | .literal others :: rest => .literal (chars ++ others) :: rest
      | rest => .literal chars :: rest
  | part :: rest => part :: joinLiterals rest

/-- The parts that an expression has in a row. -/
def rowParts : Expression → List Expression
  | .row parts => parts
  | .empty => []
  | part => [part]

/-- Expressions in a row. -/
def inRow (parts : List Expression) : Expression :=
  match joinLiterals (parts.flatMap rowParts) with
  | [] => .empty
  | [part] => part
  | parts => .row parts

/-- The parts among which an expression chooses. -/
def choiceParts : Expression → List Expression
  | .choice parts => parts
  | part => [part]

/-- The character of a literal that has just one. -/
def singleChar? : Expression → Option Char
  | .literal [char] => some char
  | _ => none

/-- The set of an expression that is one. -/
def charSet? : Expression → Option CharSet
  | .set chars => some chars
  | _ => none

/-- The parts of a row. -/
def row? : Expression → Option (List Expression)
  | .row parts => some parts
  | _ => none

/-- The number of parts that two rows have in common at their starts. -/
def commonLength : List Expression → List Expression → Nat
  | left :: lefts, right :: rights =>
      if left.same right then commonLength lefts rights + 1 else 0
  | _, _ => 0

/-- One of several expressions, where shared starts are looked for `limit` levels
deep. -/
def oneOfWithin : (limit : Nat) → List Expression → Expression
  | 0, parts => .choice parts
  | limit + 1, parts =>
      match parts.flatMap choiceParts with
      | [] => nothing
      | [part] => part
      | parts =>
          match parts.mapM singleChar?, parts.mapM charSet?, parts.mapM row? with
          | some chars, _, _ => ofSet (.unions (chars.map CharSet.single))
          | _, some sets, _ => ofSet (.unions sets)
          | _, _, some (first :: others) =>
              let shared := (others.map (commonLength first)).foldl min first.length
              if shared = 0 then .choice parts
              else
                inRow (first.take shared ++
                  [oneOfWithin limit ((first :: others).map fun row => inRow (row.drop shared))])
          | _, _, _ => .choice parts

/-- One of several expressions. -/
def oneOf (parts : List Expression) : Expression :=
  oneOfWithin (sizeOfAll parts + 1) parts

/-- An expression from `least` to `most` times, or without bound.  What can only
match the empty text need not be repeated. -/
def repeated (body : Expression) (least : Nat) (most : Option Nat) (isLazy : Bool) :
    Expression :=
  let (least, most) :=
    if body.isBlank then (min least 1, some ((most.map (min · 1)).getD 1)) else (least, most)
  match least, most with
  | 0, some 0 => .empty
  | 1, some 1 => body
  | least, most => .repetition body least most isLazy

/-! ## Where matches begin and end -/

mutual

/-- Whether every match begins at the start of the text, as far as assertions at
the start tell. -/
def startsText : Expression → Bool
  | .assertion condition => condition == .textStart
  | .repetition body least _ _ => 0 < least && body.startsText
  | .group _ body => body.startsText
  | .row parts => anyStartsText parts
  | .choice parts => allStartText parts
  | _ => false

/-- Whether a part of a row begins at the start of the text before one that takes
a character. -/
def anyStartsText : List Expression → Bool
  | [] => false
  | part :: rest => part.startsText || (part.isBlank && anyStartsText rest)

/-- Whether all of several parts begin at the start of the text. -/
def allStartText : List Expression → Bool
  | [] => true
  | part :: rest => part.startsText && allStartText rest

end

mutual

/-- Whether every match ends at the end of the text, as far as assertions at the
end tell. -/
def endsText : Expression → Bool
  | .assertion condition => condition == .textEnd
  | .repetition body least _ _ => 0 < least && body.endsText
  | .group _ body => body.endsText
  | .row parts => anyEndsText parts
  | .choice parts => allEndText parts
  | _ => false

/-- Whether a part of a row ends at the end of the text after the last one that
takes a character. -/
def anyEndsText : List Expression → Bool
  | [] => false
  | part :: rest => anyEndsText rest || (areBlank rest && part.endsText)

/-- Whether all of several parts end at the end of the text. -/
def allEndText : List Expression → Bool
  | [] => true
  | part :: rest => part.endsText && allEndText rest

end

end Expression

end Blueprint.Pattern
