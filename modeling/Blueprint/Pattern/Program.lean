import Blueprint.Pattern.Expression
import Blueprint.Pattern.Octets
import Std.Data.HashMap

/-!
# The extent of programs

A pattern is admitted if its two programs are not too long: one that reads texts
forward and one that reads them backward, octet by octet.  A program consists of
states that are linked to one another.  Here programs are written out only as far
as their extent goes: states are numbered, and links are counted.

What follows a part of a program is linked to the end of the part.  That takes
further room where the end is a state with alternatives.

The states that read a set of characters are shared where they read the same
octets and go on alike.  Which states there are is kept in a table with a fixed
number of places; a state displaces the one that had its place before, and is
shared no more from then on.
-/

namespace Blueprint.Pattern

open Text (CharSet)

/-- How much of a program is written. -/
structure Extent where
  /-- The number of states. -/
  states : Nat
  /-- The octets that links take beyond those of their states. -/
  links : Nat

namespace Extent

/-- The octets of a state. -/
def stateOctets : Nat := 32

/-- The octets of a link between states. -/
def linkOctets : Nat := 4

/-- The octets of a link that is taken for some octets of the text. -/
def rangeOctets : Nat := 8

/-- The octets of a program. -/
def octets (extent : Extent) : Nat :=
  stateOctets * extent.states + extent.links

/-- The octets that a program may take. -/
def limit : Nat := 10 * Nat.pow 2 20

end Extent

/-- Writing a part of a program, which fails when the program is too long. -/
abbrev Writing := StateT Extent Option

namespace Writing

/-- Take some room. -/
def grow (states links : Nat) : Writing Unit := fun extent =>
  let grown : Extent := ⟨extent.states + states, extent.links + links⟩
  if Extent.limit < grown.octets then none else some ((), grown)

/-- Write a state with links for some ranges of octets, and answer its number. -/
def stateWith (ranges : Nat) : Writing Nat := do
  let extent ← get
  grow 1 (Extent.rangeOctets * ranges)
  return extent.states

/-- Write a state. -/
def state : Writing Unit := grow 1 0

/-- Add links to a state with alternatives. -/
def link (count : Nat) : Writing Unit := grow 0 (Extent.linkOctets * count)

/-- Go on from the end of a part; `branches` says whether it has alternatives. -/
def goOn (branches : Bool) : Writing Unit :=
  if branches then link 1 else pure ()

/-! ## Sets of characters -/

/-- Which states there are by their places, with what they are. -/
abbrev Places (α : Type) := Std.HashMap Nat (α × Nat)

/-- The place of a state in a table of some size: the octets and states that it
goes by are stirred one after the other. -/
def place (size : Nat) (numbers : List Nat) : Nat :=
  let stir (hash : UInt64) (number : Nat) : UInt64 :=
    (hash ^^^ number.toUInt64) * 1099511628211
  (numbers.foldl stir 14695981039346656037).toNat % size

/-- Share the state that is in a place, or write it. -/
def share {α : Type} [DecidableEq α] (slot : Nat) (key : α) (write : Writing Nat) :
    StateT (Places α) Writing Nat := do
  let found := (← get)[slot]?.bind fun entry => if entry.1 = key then some entry.2 else none
  match found with
  | some number => return number
  | none => do
      let number ← write
      modify (·.insert slot (key, number))
      return number

/-- The places for states that read forward. -/
def forwardPlaces : Nat := 10000

/-- The places for states that read backward. -/
def backwardPlaces : Nat := 1000

/-- Rows with their first ranges taken off, where neighbours with the same one are
together. -/
def byFirst : List OctetRow → List (OctetRange × List OctetRow)
  | [] => []
  | [] :: rows => byFirst rows
  | (first :: others) :: rows =>
      match byFirst rows with
      | (next, group) :: groups =>
          if first = next then (first, others :: group) :: groups
          else (first, [others]) :: (next, group) :: groups
      | [] => [(first, [others])]

/-- Write the state that reads one of several rows of at most so many octets and
goes on to a state. -/
def forwardState (target : Nat) : (octets : Nat) → List OctetRow →
    StateT (Places (List (OctetRange × Nat))) Writing Nat
  | 0, _ => return target
  | octets + 1, rows =>
      if rows.all (·.isEmpty) then return target
      else do
        let links ← (byFirst rows).mapM fun group => do
          return (group.1, ← forwardState target octets group.2)
        let numbers := links.flatMap fun link => [link.1.first, link.1.last, link.2]
        share (place forwardPlaces numbers) links (stateWith links.length)

/-- Write the states that read a row backward and go on to a state. -/
def backwardStates (target : Nat) :
    OctetRow → StateT (Places (Nat × OctetRange)) Writing Unit
  | [] => pure ()
  | range :: rest => do
      let key := (target, range)
      let number ←
        share (place backwardPlaces [target, range.first, range.last]) key (stateWith 0)
      backwardStates number rest

/-- Write the states that read a character of a set. -/
def charSet (backward : Bool) (set : CharSet) : Writing Unit :=
  if set.isAscii then do
    state
    let _ ← stateWith set.ranges.length
  else
    let rows := OctetRow.ofCharSet set
    if backward then do
      state
      let target ← stateWith 0
      let _ ← (rows.forM fun row => do
        backwardStates target row
        StateT.lift (link 1)).run ∅
    else do
      let target ← stateWith 0
      let _ ← (forwardState target 4 rows).run ∅

/-! ## Repetition -/

/-- Go on from the end of a part to some copies of another. -/
def further (body : Writing Bool) : (count : Nat) → (branches : Bool) → Writing Bool
  | 0, branches => return branches
  | count + 1, branches => do
      let next ← body
      goOn branches
      further body count next

/-- Write some copies of a part in a row. -/
def copies (body : Writing Bool) : (count : Nat) → Writing Bool
  | 0 => do
      state
      return false
  | count + 1 => do
      let branches ← body
      further body count branches

/-- Go on from the end of a part to some copies of another, each of which may be
left out together with those after it. -/
def furtherOptional (body : Writing Bool) : (count : Nat) → (branches : Bool) → Writing Unit
  | 0, branches => goOn branches
  | count + 1, branches => do
      state
      let next ← body
      goOn branches
      link 2
      furtherOptional body count next

/-- Write a repetition of a part, of which `certain` says that it reads something
for certain.  Answers whether the end has alternatives. -/
def repetition (body : Writing Bool) (certain : Bool) (least : Nat) (most : Option Nat) :
    Writing Bool :=
  match least, most with
  | 0, some 1 => do
      state
      let branches ← body
      state
      link 2
      goOn branches
      return false
  | least, some most =>
      if least = most then copies body least
      else do
        let branches ← copies body least
        state
        furtherOptional body (most - least) branches
        return false
  | 0, none =>
      if certain then do
        state
        let branches ← body
        link 1
        goOn branches
        return true
      else do
        let branches ← body
        goOn branches
        grow 3 0
        link 4
        return false
  | least + 1, none => do
      let (branches, first) ←
        if least = 0 then pure (← body, false)
        else do
          let first ← copies body least
          pure (← body, first)
      goOn first
      state
      goOn branches
      link 1
      return true

/-! ## Literals to choose among -/

/-- Literals between those that are empty. -/
def segments : List (List Nat) → List (List (List Nat))
  | [] => [[]]
  | literal :: rest =>
      if literal.isEmpty then [] :: segments rest
      else
        match segments rest with
        | [] => [[literal]]
        | segment :: others => (literal :: segment) :: others

/-- What is left of the literals that begin with an octet. -/
def after (octet : Nat) (literals : List (List Nat)) : List (List Nat) :=
  literals.filterMap fun
    | first :: rest => if first = octet then some rest else none
    | [] => none

/-- Write the states that read one of several literals, which share what they begin
with, down to a depth.  A literal that ends where others go on divides those before
it from those after it. -/
def literals : (depth : Nat) → List (List Nat) → Writing Unit
  | 0, _ => pure ()
  | depth + 1, alternatives =>
      if alternatives.all (·.isEmpty) then pure ()
      else do
        let rest := alternatives.dropWhile (·.isEmpty)
        let all := segments (if rest.length = alternatives.length then rest else [] :: rest)
        let taken := all.filter (!·.isEmpty)
        state
        link (taken.length + all.length - 1)
        for segment in taken do
          let firsts := (segment.filterMap (·.head?)).eraseDups
          let _ ← stateWith (if firsts.length = 1 then 0 else firsts.length)
          for octet in firsts do
            literals depth (after octet segment)

/-- The octets of a literal. -/
def literal? : Expression → Option (List Nat)
  | .literal chars => some (chars.flatMap fun char => OctetRow.octets char.toNat)
  | _ => none

/-! ## Expressions -/

mutual

/-- Write an expression.  Answers whether its end has alternatives. -/
def expression (backward : Bool) : Expression → Writing Bool
  | .empty => do
      state
      return false
  | .literal chars => do
      grow ((chars.map fun char => Expression.octetCount char.toNat).sum) 0
      return false
  | .set chars => do
      charSet backward chars
      return false
  | .assertion _ => do
      state
      return false
  | .repetition body least most _ =>
      repetition (expression backward body) (body.fewest.any (0 < ·)) least most
  | .group _ body =>
      if backward then expression backward body
      else do
        state
        let branches ← expression backward body
        state
        goOn branches
        return false
  | .row parts => if backward then rowBackward parts else rowForward parts
  | .choice parts =>
      match parts.mapM literal? with
      | some alternatives => do
          state
          literals ((alternatives.map List.length).sum + 1)
            (if backward then alternatives.map List.reverse else alternatives)
          return false
      | none => do
          choice backward 2 parts
          return false

/-- Write parts in a row from the first to the last. -/
def rowForward : List Expression → Writing Bool
  | [] => return false
  | [part] => expression false part
  | part :: rest => do
      let branches ← expression false part
      goOn branches
      rowForward rest

/-- Write parts in a row from the last to the first. -/
def rowBackward : List Expression → Writing Bool
  | [] => return false
  | [part] => expression true part
  | part :: rest => do
      let branches ← rowBackward rest
      goOn branches
      expression true part

/-- Write alternatives, and the states at which they part and meet once so many of
them are written. -/
def choice (backward : Bool) : (wanted : Nat) → List Expression → Writing Unit
  | _, [] => pure ()
  | wanted, part :: rest => do
      let branches ← expression backward part
      if wanted = 1 then grow 2 0
      link 1
      goOn branches
      choice backward (wanted - 1) rest

end

/-- Write a whole program: it skips what comes before a match, unless a match has
to begin where the text does, and notes where a match begins and ends. -/
def program (backward : Bool) (pattern : Expression) : Writing Unit := do
  let anchored := if backward then pattern.endsText else pattern.startsText
  let skipped ←
    if anchored then do
      state
      pure false
    else
      let anyOctet : Writing Bool := do
        state
        let _ ← stateWith 1
        return false
      repetition anyOctet true 0 none
  let branches ← expression backward (if backward then pattern else .group 0 pattern)
  state
  goOn branches
  goOn skipped

/-- The number of literals from which on a choice among them needs no program. -/
def dictionarySize : Nat := 3000

/-- Whether a pattern only chooses among so many literals that it needs no program. -/
def isDictionary : Expression → Bool
  | .choice parts => dictionarySize ≤ parts.length && (parts.mapM literal?).isSome
  | _ => false

/-- Whether the programs of a pattern are not too long. -/
def fits (pattern : Expression) : Bool :=
  isDictionary pattern ||
    (((program false pattern).run ⟨0, 0⟩).isSome && ((program true pattern).run ⟨0, 0⟩).isSome)

end Writing

end Blueprint.Pattern
