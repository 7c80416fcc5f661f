import Blueprint.Pattern.Escape

/-!
# Classes in brackets

A class lists characters, ranges, named sets and further classes between brackets,
and may take from these by set operations, the first one first.  A class is read
together with how deeply it nests.
-/

namespace Blueprint.Pattern

open Text (CharSet)

/-- The classes that are named between bracket and colon, within ASCII. -/
def asciiClasses : List (String × CharSet) :=
  [("alnum", .ofHex ["30-39 41-5A 61-7A"]),
   ("alpha", .ofHex ["41-5A 61-7A"]),
   ("ascii", .ofHex ["0-7F"]),
   ("blank", .ofHex ["9 20"]),
   ("cntrl", .ofHex ["0-1F 7F"]),
   ("digit", .ofHex ["30-39"]),
   ("graph", .ofHex ["21-7E"]),
   ("lower", .ofHex ["61-7A"]),
   ("print", .ofHex ["20-7E"]),
   ("punct", .ofHex ["21-2F 3A-40 5B-60 7B-7E"]),
   ("space", .ofHex ["9-D 20"]),
   ("upper", .ofHex ["41-5A"]),
   ("word", .ofHex ["30-39 41-5A 5F 61-7A"]),
   ("xdigit", .ofHex ["30-39 41-46 61-66"])]

/-- An operation between two sets of a class. -/
inductive SetOperation where
  | intersection
  | difference
  | symmetricDifference

/-- The result of an operation, under which differences of case count only
before it. -/
def SetOperation.apply (flags : Flags) (operation : SetOperation) (left right : CharSet) :
    CharSet :=
  let left := flags.fold left
  let right := flags.fold right
  match operation with
  | .intersection => left.inter right
  | .difference => left.diff right
  | .symmetricDifference => (left.diff right).union (right.diff left)

/-- A set and how deeply what denotes it nests. -/
structure DeepSet where
  /-- The set. -/
  chars : CharSet
  /-- How deeply it nests. -/
  depth : Nat

/-- What has been read of a class. -/
structure OpenClass where
  /-- Whether the class stands for the characters that it does not list. -/
  negated : Bool
  /-- An operation whose right side is being read, and its left side. -/
  pending : Option (SetOperation × DeepSet)
  /-- The characters listed since the last operation. -/
  chars : CharSet
  /-- The number of members since then. -/
  members : Nat
  /-- How deeply the members nest. -/
  depth : Nat

namespace OpenClass

/-- Add a member. -/
def add (reading : OpenClass) (chars : CharSet) (depth : Nat) : OpenClass :=
  { reading with
    chars := reading.chars.union chars
    members := reading.members + 1
    depth := max reading.depth depth }

/-- The set of all that has been read.  Two members nest deeper than one, and so
does an operation. -/
def listed (flags : Flags) (reading : OpenClass) : DeepSet :=
  let right : DeepSet :=
    ⟨reading.chars, if reading.members < 2 then reading.depth else reading.depth + 1⟩
  match reading.pending with
  | none => right
  | some (operation, left) =>
      ⟨operation.apply flags left.chars right.chars, max left.depth right.depth + 1⟩

/-- Begin the right side of an operation. -/
def operate (flags : Flags) (reading : OpenClass) (operation : SetOperation) : OpenClass :=
  ⟨reading.negated, some (operation, reading.listed flags), .empty, 0, 0⟩

/-- The set of a class that is complete, which nests deeper than what is in it. -/
def close? (flags : Flags) (reading : OpenClass) : Option DeepSet :=
  let listed := reading.listed flags
  (flags.select? reading.negated listed.chars).map fun chars => ⟨chars, listed.depth + 1⟩

end OpenClass

/-- One member of a class: a character or a named set. -/
def classAtom? (flags : Flags) : List Char → Option (Atom × List Char)
  | [] => none
  | '\\' :: rest => escape? flags rest
  | char :: rest => some (.literal char, rest)

/-- The character of a member, if it is one that the flags admit. -/
def literal? (flags : Flags) : Atom → Option Char
  | .literal char => if flags.unicode || char.toNat < 128 then some char else none
  | _ => none

/-- A member of a class or a range of characters. -/
def classRange? (flags : Flags) (chars : List Char) : Option (CharSet × List Char) := do
  let (atom, rest) ← classAtom? flags chars
  let single : Option (CharSet × List Char) :=
    match atom with
    | .set set => some (set, rest)
    | atom => (literal? flags atom).map fun char => (CharSet.single char, rest)
  match flags.skip rest with
  | [] => none
  | '-' :: after =>
      match flags.peek? after with
      | some ']' | some '-' => single.map fun found => (found.1, flags.skip rest)
      | _ => do
          let first ← literal? flags atom
          let (last, rest) ← classAtom? flags (flags.skip after)
          let last ← literal? flags last
          if last.toNat < first.toNat then none
          else some (.range first.toNat last.toNat, rest)
  | next => single.map fun found => (found.1, next)

/-- The name of an ASCII class and whether the class is negated, from its colon
on. -/
def asciiClass? (chars : List Char) : Option (Bool × CharSet × List Char) := do
  let ':' :: rest := chars | none
  let (negated, rest) :=
    match rest with
    | '^' :: rest => (true, rest)
    | rest => (false, rest)
  let set ← asciiClasses.lookup (String.ofList (rest.takeWhile (· != ':')))
  let ':' :: ']' :: after := rest.dropWhile (· != ':') | none
  some (negated, set, after)

/-- Read the hyphens at the start of a class, which stand for themselves. -/
def leadingHyphens (flags : Flags) : (limit : Nat) → OpenClass → List Char →
    OpenClass × List Char
  | 0, reading, chars => (reading, chars)
  | limit + 1, reading, chars =>
      match flags.skip chars with
      | '-' :: rest => leadingHyphens flags limit (reading.add (CharSet.single '-') 0) rest
      | rest => (reading, rest)

/-- Read the start of a class after its bracket: whether it is negated, and what
stands for itself there. -/
def openClass (flags : Flags) (chars : List Char) : OpenClass × List Char :=
  let (negated, rest) :=
    match flags.skip chars with
    | '^' :: rest => (true, rest)
    | rest => (false, rest)
  let (reading, rest) :=
    leadingHyphens flags rest.length ⟨negated, none, .empty, 0, 0⟩ rest
  match reading.members, rest with
  | 0, ']' :: rest => (reading.add (CharSet.single ']') 0, rest)
  | _, rest => (reading, rest)

/-- Read the rest of a class.  Each step of `limit` takes a character at least. -/
def classRest? (flags : Flags) : (limit : Nat) → OpenClass → List Char →
    Option (DeepSet × List Char)
  | 0, _, _ => none
  | limit + 1, reading, chars =>
      let more := classRest? flags limit
      match flags.skip chars with
      | [] => none
      | ']' :: rest => (reading.close? flags).map (·, rest)
      | '[' :: rest =>
          match asciiClass? rest with
          | some (negated, set, rest) =>
              match flags.select? negated set with
              | none => none
              | some chars => more (reading.add chars 0) rest
          | none =>
              let (inner, rest) := openClass flags rest
              match more inner rest with
              | none => none
              | some (set, rest) => more (reading.add set.chars set.depth) rest
      | '&' :: '&' :: rest => more (reading.operate flags .intersection) rest
      | '-' :: '-' :: rest => more (reading.operate flags .difference) rest
      | '~' :: '~' :: rest => more (reading.operate flags .symmetricDifference) rest
      | next =>
          match classRange? flags next with
          | none => none
          | some (set, rest) => more (reading.add set 0) rest

/-- Read a class after its bracket. -/
def class? (flags : Flags) (chars : List Char) : Option (DeepSet × List Char) :=
  let (reading, rest) := openClass flags chars
  classRest? flags (chars.length + 1) reading rest

end Blueprint.Pattern
