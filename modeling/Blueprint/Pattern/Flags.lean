import Blueprint.Pattern.Expression
import Blueprint.Text.Property
import Blueprint.Text.WhiteSpace

/-!
# Flags of patterns

Flags say how a part of a pattern is to be read: whether case counts, what a line
is, whether characters are those of Unicode, and whether blanks and comments may
be written between the signs of the pattern.
-/

namespace Blueprint.Pattern

open Text (CharSet)

/-- The flags in force at a place of a pattern. -/
structure Flags where
  ignoreCase : Bool := false
  multiLine : Bool := false
  dotMatchesNewLine : Bool := false
  swapGreed : Bool := false
  unicode : Bool := true
  linePairs : Bool := false
  ignoreBlanks : Bool := false

namespace Flags

/-- Set or clear the flag of a letter. -/
def assign? (flags : Flags) (letter : Char) (value : Bool) : Option Flags :=
  match letter with
  | 'i' => some { flags with ignoreCase := value }
  | 'm' => some { flags with multiLine := value }
  | 's' => some { flags with dotMatchesNewLine := value }
  | 'U' => some { flags with swapGreed := value }
  | 'u' => some { flags with unicode := value }
  | 'R' => some { flags with linePairs := value }
  | 'x' => some { flags with ignoreBlanks := value }
  | _ => none

/-! ## Sets of characters -/

/-- Close a set under differences of case, where they do not count. -/
def fold (flags : Flags) (set : CharSet) : CharSet :=
  if flags.ignoreCase then
    if flags.unicode then set.folded else set.asciiFolded
  else set

/-- The complement of a set, if only whole characters are matched. -/
def compl? (flags : Flags) (set : CharSet) : Option CharSet :=
  if flags.unicode then some set.compl else none

/-- A set or its complement, where case may not count. -/
def select? (flags : Flags) (negated : Bool) (set : CharSet) : Option CharSet :=
  if negated then flags.compl? (flags.fold set) else some (flags.fold set)

/-- The expression of a single character. -/
def literal (flags : Flags) (char : Char) : Expression :=
  if flags.ignoreCase then
    if flags.unicode then .ofSet (CharSet.single char).folded
    else if char.toNat < 128 then .ofSet (CharSet.single char).asciiFolded
    else .literal [char]
  else .literal [char]

/-- The set of the dot. -/
def dot? (flags : Flags) : Option CharSet :=
  if flags.dotMatchesNewLine then flags.compl? .empty
  else if flags.linePairs then flags.compl? (.ofHex ["A D"])
  else flags.compl? (.ofHex ["A"])

/-! ## Blanks -/

/-- Drop blanks and comments, which run to the end of a line.  `within` says
whether the text begins inside a comment. -/
def dropBlanks : (within : Bool) → List Char → List Char
  | _, [] => []
  | true, char :: rest => dropBlanks (char != '\n') rest
  | false, char :: rest =>
      if Text.isWhiteSpace char then dropBlanks false rest
      else if char = '#' then dropBlanks true rest
      else char :: rest

/-- Drop what does not count under the flags. -/
def skip (flags : Flags) (chars : List Char) : List Char :=
  if flags.ignoreBlanks then dropBlanks false chars else chars

/-- The next character that is no blank, where blanks do not count.  Of a comment only the hash and
blanks are passed over, so what is met there is its text. -/
def peek? (flags : Flags) (chars : List Char) : Option Char :=
  if flags.ignoreBlanks then
    match chars.dropWhile Text.isWhiteSpace with
    | '#' :: comment => (comment.dropWhile Text.isWhiteSpace).head?
    | rest => rest.head?
  else chars.head?

theorem length_dropBlanks_le (within : Bool) (chars : List Char) :
    (dropBlanks within chars).length ≤ chars.length := by
  induction chars generalizing within with
  | nil => cases within <;> simp [dropBlanks]
  | cons char rest ih =>
      cases within with
      | true => exact Nat.le_succ_of_le (ih _)
      | false =>
          unfold dropBlanks
          split
          · exact Nat.le_succ_of_le (ih _)
          · split
            · exact Nat.le_succ_of_le (ih _)
            · exact Nat.le_refl _

/-- Skipping makes nothing longer. -/
theorem length_skip_le (flags : Flags) (chars : List Char) :
    (flags.skip chars).length ≤ chars.length := by
  unfold skip
  split
  · exact length_dropBlanks_le false chars
  · exact Nat.le_refl _

/-- The characters as long as they fulfil a condition, and what follows them, where
blanks between them do not count. -/
def span (flags : Flags) (condition : Char → Bool) (chars : List Char) :
    List Char × List Char :=
  match _skipped : flags.skip chars with
  | [] => ([], [])
  | char :: rest =>
      if condition char then
        let (others, after) := flags.span condition rest
        (char :: others, after)
      else ([], char :: rest)
termination_by chars.length
decreasing_by
  have bound := length_skip_le flags chars
  rw [_skipped] at bound
  exact bound

/-- Some number of characters, where blanks between them do not count. -/
def take? (flags : Flags) : (count : Nat) → List Char → Option (List Char × List Char)
  | 0, chars => some ([], chars)
  | count + 1, chars =>
      match flags.skip chars with
      | [] => none
      | char :: rest =>
          (flags.take? count rest).map fun found => (char :: found.1, found.2)

end Flags

end Blueprint.Pattern
