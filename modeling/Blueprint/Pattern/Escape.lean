import Blueprint.Pattern.Flags
import Blueprint.Text.PropertyName

/-!
# Escapes in patterns

What a backslash begins: a character that would mean something else, a character
by its code point, a set of characters by its name, or an assertion.
-/

namespace Blueprint.Pattern

open Text (CharSet)

/-- What stands for characters or positions. -/
inductive Atom where
  /-- A character. -/
  | literal (char : Char)
  | assertion (condition : Assertion)
  | set (chars : CharSet)

/-- The expression of an atom. -/
def Atom.expression (flags : Flags) : Atom → Expression
  | .literal char => flags.literal char
  | .assertion condition => .assertion condition
  | .set chars => .ofSet chars

/-- Characters that may be escaped: all of ASCII but letters, digits and angle
brackets. -/
def isEscapable (char : Char) : Bool :=
  char.toNat < 128 && !char.isAlphanum && char != '<' && char != '>'

/-- The character of a hexadecimal code point. -/
def hexChar? (digits : List Char) : Option Char := do
  let values ← digits.mapM Text.hexDigit?
  let code := values.foldl (fun code value => 16 * code + value) 0
  if digits.isEmpty ∨ ¬code.isValidChar then none else some (Char.ofNat code)

/-- What stands in braces, after the first brace. -/
def braced? (flags : Flags) (chars : List Char) : Option (List Char × List Char) :=
  match flags.span (· != '\x7d') chars with
  | (_, []) => none
  | (content, _ :: rest) => some (content, rest)

/-- The character after `\x`, `\u` or `\U`: a number of digits set by the letter,
or any number of them in braces. -/
def hexEscape? (flags : Flags) (count : Nat) (chars : List Char) : Option (Char × List Char) :=
  match flags.skip chars with
  | '\x7b' :: rest => do
      let (digits, after) ← braced? flags rest
      let char ← hexChar? digits
      return (char, after)
  | chars => do
      let (digits, after) ← flags.take? count chars
      let char ← hexChar? digits
      if count = 2 ∧ ¬flags.unicode ∧ 127 < char.toNat then none else some (char, after)

/-- A text in two at a sign, which is left out. -/
def divide? (sign : List Char) : (seen : List Char) → List Char → Option (List Char × List Char)
  | _, [] => none
  | seen, char :: rest =>
      if sign.isPrefixOf (char :: rest) then
        some (seen.reverse, (char :: rest).drop sign.length)
      else divide? sign (char :: seen) rest

/-- The set of a name in braces: of a property with one of its values, told apart by
a sign, or a single name.  All signs mean the same. -/
def namedSet? (name : List Char) : Option CharSet :=
  match (divide? ['!', '='] [] name).or ((divide? [':'] [] name).or (divide? ['='] [] name)) with
  | some (property, value) => Text.PropertyName.valued? property value
  | none => Text.PropertyName.single? name

/-- A set named after `\p` or `\P`: by one letter, or by a name in braces. -/
def propertyEscape? (flags : Flags) (negated : Bool) (chars : List Char) :
    Option (CharSet × List Char) := do
  let (name, after) ←
    match flags.skip chars with
    | '\x7b' :: rest => braced? flags rest
    | '\\' :: _ => none
    | letter :: after => some ([letter], after)
    | [] => none
  let named ← namedSet? name
  let set ← if flags.unicode then flags.select? negated named else none
  return (set, after)

/-- The kinds of boundary that are named in braces after `\b`. -/
def namedBoundary? (unicode : Bool) : String → Option Assertion
  | "start" => some (.wordStart unicode)
  | "end" => some (.wordEnd unicode)
  | "start-half" => some (.notAfterWord unicode)
  | "end-half" => some (.notBeforeWord unicode)
  | _ => none

/-- The boundary after `\b`, plain unless a name in braces follows. -/
def boundary? (flags : Flags) (chars : List Char) : Option (Assertion × List Char) :=
  let isNameChar := fun (char : Char) => char.isAlpha || char == '-'
  let plain := some (.boundary flags.unicode, chars)
  match chars with
  | '\x7b' :: rest =>
      match flags.skip rest with
      | [] => none
      | first :: _ =>
          if isNameChar first then
            match flags.span isNameChar rest with
            | (name, '\x7d' :: after) =>
                (namedBoundary? flags.unicode (String.ofList name)).map (·, after)
            | _ => none
          else plain
  | _ => plain

/-- The atom after a backslash. -/
def escape? (flags : Flags) : List Char → Option (Atom × List Char)
  | [] => none
  | letter :: rest =>
      let hex (count : Nat) : Option (Atom × List Char) :=
        (hexEscape? flags count rest).map fun found => (.literal found.1, found.2)
      let property (negated : Bool) : Option (Atom × List Char) :=
        (propertyEscape? flags negated rest).map fun found => (.set found.1, found.2)
      let set (named : Bool → CharSet) : Option (Atom × List Char) :=
        some (.set (named flags.unicode), rest)
      let complement (named : Bool → CharSet) : Option (Atom × List Char) :=
        (flags.compl? (named flags.unicode)).map fun chars => (.set chars, rest)
      match letter with
      | 'x' => hex 2
      | 'u' => hex 4
      | 'U' => hex 8
      | 'p' => property false
      | 'P' => property true
      | 'd' => set CharSet.digit
      | 's' => set CharSet.space
      | 'w' => set CharSet.word
      | 'D' => complement CharSet.digit
      | 'S' => complement CharSet.space
      | 'W' => complement CharSet.word
      | 'a' => some (.literal '\x07', rest)
      | 'f' => some (.literal '\x0c', rest)
      | 't' => some (.literal '\t', rest)
      | 'n' => some (.literal '\n', rest)
      | 'r' => some (.literal '\r', rest)
      | 'v' => some (.literal '\x0b', rest)
      | 'A' => some (.assertion .textStart, rest)
      | 'z' => some (.assertion .textEnd, rest)
      | 'B' => some (.assertion (.notBoundary flags.unicode), rest)
      | '<' => some (.assertion (.wordStart flags.unicode), rest)
      | '>' => some (.assertion (.wordEnd flags.unicode), rest)
      | 'b' => (boundary? flags rest).map fun found => (.assertion found.1, found.2)
      | char => if isEscapable char then some (.literal char, rest) else none

end Blueprint.Pattern
