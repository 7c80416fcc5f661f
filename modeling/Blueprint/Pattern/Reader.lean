import Blueprint.Pattern.Class
import Blueprint.Text.Letter

/-!
# Reading patterns

The notation of patterns: literals, classes in brackets, groups, alternatives,
repetition, assertions, and flags that hold to the end of a group.  Patterns that
look around or refer back to a group are refused, as is every malformed one.

What is read is an expression together with how deeply its notation nests, which
is limited.
-/

namespace Blueprint.Pattern

/-- A part of an expression that has been read. -/
structure Part where
  /-- What it matches. -/
  expression : Expression
  /-- How deeply it nests. -/
  depth : Nat
  /-- Whether it only sets flags, which cannot be repeated. -/
  setsFlags : Bool := false

namespace Part

/-- How deeply a pattern may nest. -/
def depthLimit : Nat := 250

/-- A part that sets flags. -/
def flags : Part := ⟨.empty, 0, true⟩

/-- How deeply parts nest that are put together, which makes a level if there are
several. -/
def depthOf (parts : List Part) : Nat :=
  let depth := (parts.map (·.depth)).foldl max 0
  if parts.length < 2 then depth else depth + 1

/-- Parts in a row. -/
def row (parts : List Part) : Part :=
  ⟨.inRow (parts.map (·.expression)), depthOf parts, false⟩

/-- Alternatives, unless there is just one. -/
def choice : List Part → Part
  | [part] => part
  | parts => ⟨.oneOf (parts.map (·.expression)), depthOf parts, false⟩

/-- All alternatives, given the parts of the last one and those before it, last ones
first. -/
def complete (parts others : List Part) : Part :=
  choice (row parts.reverse :: others).reverse

/-- A part repeated from `least` to `most` times, or without bound. -/
def repeated? (part : Part) (least : Nat) (most : Option Nat) (isLazy : Bool) : Option Part :=
  if part.setsFlags || most.any (· < least) then none
  else some ⟨.repeated part.expression least most isLazy, part.depth + 1, false⟩

/-- A group around a part, which may be counted. -/
def group (part : Part) (index : Option Nat) : Part :=
  let expression :=
    match index with
    | none => part.expression
    | some index => .group index part.expression
  ⟨expression, part.depth + 1, false⟩

end Part

/-! ## Repetition -/

/-- A count in a repetition, if there is one of moderate size; blanks around it do
not count. -/
def count? (flags : Flags) (chars : List Char) : Option Nat × List Char :=
  let (digits, rest) := flags.span Char.isDigit (chars.dropWhile Text.isWhiteSpace)
  let value := digits.foldl (fun value digit => 10 * value + (digit.toNat - '0'.toNat)) 0
  (if digits.isEmpty || UInt32.size ≤ value then none else some value,
    flags.skip (rest.dropWhile Text.isWhiteSpace))

/-- The bounds of a counted repetition after its brace, with what follows it. -/
def bounds? (flags : Flags) (chars : List Char) : Option ((Nat × Option Nat) × List Char) :=
  match count? flags (flags.skip chars) with
  | (none, _) => none
  | (some least, '\x7d' :: rest) => some ((least, some least), flags.skip rest)
  | (some least, ',' :: rest) =>
      match flags.skip rest with
      | '\x7d' :: rest => some ((least, none), flags.skip rest)
      | rest =>
          match count? flags rest with
          | (some most, '\x7d' :: rest) => some ((least, some most), flags.skip rest)
          | _ => none
  | _ => none

/-- The mark of a repetition that prefers few matches, if it is there. -/
def lazyMark : List Char → Bool × List Char
  | '?' :: rest => (true, rest)
  | rest => (false, rest)

/-! ## Groups -/

/-- The groups that have been opened: how many are counted, and their names. -/
structure Groups where
  count : Nat := 0
  names : List String := []

/-- The flags of a group, up to a colon or a closing parenthesis: the flags in
force, whether none was named, and what follows, beginning with that mark. -/
def groupFlags? : Flags → (clears : Bool) → (seen : List Char) → List Char →
    Option (Flags × Bool × List Char)
  | _, _, _, [] => none
  | flags, clears, seen, char :: rest =>
      if char = ':' ∨ char = ')' then
        if seen.head? = some '-' then none else some (flags, seen.isEmpty, char :: rest)
      else if seen.contains char then none
      else if char = '-' then groupFlags? flags true ('-' :: seen) rest
      else
        match flags.assign? char (!clears) with
        | none => none
        | some flags => groupFlags? flags clears (char :: seen) rest

/-- Characters with which group names begin. -/
def startsName (char : Char) : Bool :=
  char == '_' || Text.isLetter char

/-- Characters of group names. -/
def isNameChar (char : Char) : Bool :=
  startsName char || char == '.' || char == '[' || char == ']' || Text.isNumber char

/-- The name of a group up to its closing angle bracket. -/
def groupName? (chars : List Char) : Option (String × List Char) :=
  let name := chars.takeWhile (· != '>')
  match name, chars.dropWhile (· != '>') with
  | first :: others, _ :: rest =>
      if startsName first && others.all isNameChar then some (String.ofList name, rest)
      else none
  | _, _ => none

/-- How a group begins. -/
inductive GroupStart where
  /-- A group in which some flags hold, with its number if it is counted. -/
  | group (flags : Flags) (index : Option Nat) (groups : Groups) (rest : List Char)
  /-- Flags for the rest of the enclosing group. -/
  | flags (flags : Flags) (rest : List Char)

/-- The start of a group after its parenthesis. -/
def groupStart? (flags : Flags) (groups : Groups) (chars : List Char) : Option GroupStart :=
  let index := groups.count + 1
  let named (rest : List Char) : Option GroupStart :=
    match groupName? rest with
    | none => none
    | some (name, rest) =>
        if groups.names.contains name then none
        else some (.group flags (some index) ⟨index, name :: groups.names⟩ rest)
  match flags.skip chars with
  | '?' :: '=' :: _ | '?' :: '!' :: _ | '?' :: '<' :: '=' :: _ | '?' :: '<' :: '!' :: _ => none
  | '?' :: 'P' :: '<' :: rest => named rest
  | '?' :: '<' :: rest => named rest
  | '?' :: rest =>
      match groupFlags? flags false [] rest with
      | some (set, bare, ')' :: rest) => if bare then none else some (.flags set rest)
      | some (set, _, ':' :: rest) => some (.group set none groups rest)
      | _ => none
  | rest => some (.group flags (some index) ⟨index, groups.names⟩ rest)

/-! ## Expressions -/

/-- Read alternatives up to a closing parenthesis or the end.  `parts` are the
parts of the alternative that is being read and `others` the alternatives before
it, last ones first.  Answers what was read, the groups that are opened and the
rest.  Each step of `limit` takes a character at least. -/
def expression? : (limit : Nat) → Flags → Groups → (parts others : List Part) →
    List Char → Option (Part × Groups × List Char)
  | 0, _, _, _, _, _ => none
  | limit + 1, flags, groups, parts, others, chars =>
      let more := expression? limit
      let push (part : Part) (rest : List Char) := more flags groups (part :: parts) others rest
      let atom (expression : Expression) (rest : List Char) := push ⟨expression, 0, false⟩ rest
      let repeatLast (least : Nat) (most : Option Nat) (rest : List Char) :=
        let (isLazy, rest) := lazyMark rest
        match parts with
        | [] => none
        | last :: earlier =>
            match last.repeated? least most (isLazy != flags.swapGreed) with
            | none => none
            | some part => more flags groups (part :: earlier) others rest
      match flags.skip chars with
      | [] => some (.complete parts others, groups, [])
      | ')' :: rest => some (.complete parts others, groups, ')' :: rest)
      | '|' :: rest => more flags groups [] (.row parts.reverse :: others) rest
      | '?' :: rest => repeatLast 0 (some 1) rest
      | '*' :: rest => repeatLast 0 none rest
      | '+' :: rest => repeatLast 1 none rest
      | '\x7b' :: rest =>
          match bounds? flags rest with
          | none => none
          | some ((least, most), rest) => repeatLast least most rest
      | '(' :: rest =>
          match groupStart? flags groups rest with
          | none => none
          | some (.flags set rest) => more set groups (.flags :: parts) others rest
          | some (.group inner index groups rest) =>
              match more inner groups [] [] rest with
              | some (part, groups, ')' :: rest) =>
                  more flags groups (part.group index :: parts) others rest
              | _ => none
      | '[' :: rest =>
          match class? flags rest with
          | none => none
          | some (set, rest) => push ⟨.ofSet set.chars, set.depth, false⟩ rest
      | '.' :: rest =>
          match flags.dot? with
          | none => none
          | some set => atom (.ofSet set) rest
      | '^' :: rest =>
          atom (.assertion (if !flags.multiLine then .textStart
            else if flags.linePairs then .pairLineStart else .lineStart)) rest
      | '$' :: rest =>
          atom (.assertion (if !flags.multiLine then .textEnd
            else if flags.linePairs then .pairLineEnd else .lineEnd)) rest
      | '\\' :: rest =>
          match escape? flags rest with
          | none => none
          | some (found, rest) => atom (found.expression flags) rest
      | char :: rest => atom (flags.literal char) rest

/-- The expression that a pattern denotes, if it is well formed. -/
def read? (source : String) : Option Expression :=
  let chars := source.toList
  match expression? (chars.length + 1) {} {} [] [] chars with
  | some (part, _, []) => if part.depth ≤ Part.depthLimit then some part.expression else none
  | _ => none

end Blueprint.Pattern
