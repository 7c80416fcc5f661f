import Blueprint.Pattern.Expression
import Blueprint.Text.Property

/-!
# Searching texts

A regular expression is run over a text by marking the places in it up to which
the text read so far may match.  One step per character moves the marks; nothing
is ever read twice.

Assertions are conditions on the neighbours of a position.
-/

namespace Blueprint.Pattern

open Text (CharSet)

/-- The characters around a position of a text. -/
structure Around where
  /-- The character before the position. -/
  before : Option Char
  /-- The character after it. -/
  after : Option Char

namespace Around

/-- Whether a letter of a word is before a position. -/
def afterWord (around : Around) (unicode : Bool) : Bool :=
  around.before.any (CharSet.word unicode).contains

/-- Whether a letter of a word is after a position. -/
def beforeWord (around : Around) (unicode : Bool) : Bool :=
  around.after.any (CharSet.word unicode).contains

end Around

/-- Whether an assertion holds. -/
def Assertion.holds (around : Around) : Assertion → Bool
  | .textStart => around.before.isNone
  | .textEnd => around.after.isNone
  | .lineStart => around.before.isNone || around.before == some '\n'
  | .lineEnd => around.after.isNone || around.after == some '\n'
  | .pairLineStart =>
      around.before.isNone || around.before == some '\n' ||
        (around.before == some '\r' && around.after != some '\n')
  | .pairLineEnd =>
      around.after.isNone || around.after == some '\r' ||
        (around.after == some '\n' && around.before != some '\r')
  | .boundary unicode => around.afterWord unicode != around.beforeWord unicode
  | .notBoundary unicode => around.afterWord unicode == around.beforeWord unicode
  | .wordStart unicode => !around.afterWord unicode && around.beforeWord unicode
  | .wordEnd unicode => around.afterWord unicode && !around.beforeWord unicode
  | .notAfterWord unicode => !around.afterWord unicode
  | .notBeforeWord unicode => !around.beforeWord unicode

/-- A regular expression.  Each set of characters has a mark: whether the text
read so far may match up to and including it. -/
inductive Regex where
  | empty
  | assertion (condition : Assertion)
  | char (marked : Bool) (set : CharSet)
  | seq (first second : Regex)
  | alt (left right : Regex)
  | star (body : Regex)

namespace Regex

/-- Whether a match may end at a position, given the marks there.  `entered` says
whether one may begin there. -/
def reaches (around : Around) : Bool → Regex → Bool
  | entered, .empty => entered
  | entered, .assertion condition => entered && condition.holds around
  | _, .char marked _ => marked
  | entered, .seq first second => second.reaches around (first.reaches around entered)
  | entered, .alt left right => left.reaches around entered || right.reaches around entered
  | entered, .star body => entered || body.reaches around false

/-- Move the marks over a character, and answer also whether a match may end before
it.  `entered` says whether a match of this part may begin before it. -/
def advance (around : Around) (next : Char) : Bool → Regex → Bool × Regex
  | entered, .empty => (entered, .empty)
  | entered, .assertion condition => (entered && condition.holds around, .assertion condition)
  | entered, .char marked set => (marked, .char (entered && set.contains next) set)
  | entered, .seq first second =>
      let (between, first) := first.advance around next entered
      let (ended, second) := second.advance around next between
      (ended, .seq first second)
  | entered, .alt left right =>
      let (leftEnded, left) := left.advance around next entered
      let (rightEnded, right) := right.advance around next entered
      (leftEnded || rightEnded, .alt left right)
  | entered, .star body =>
      let again := entered || body.reaches around false
      (again, .star (body.advance around next again).2)

/-- Whether a match ends somewhere in the rest of a text. -/
def searchFrom : Regex → Option Char → List Char → Bool
  | regex, before, [] => regex.reaches ⟨before, none⟩ true
  | regex, before, next :: rest =>
      let (ended, regex) := regex.advance ⟨before, some next⟩ next true
      ended || searchFrom regex (some next) rest

/-- Whether some part of a text matches. -/
def matchesWithin (regex : Regex) (text : String) : Bool :=
  regex.searchFrom none text.toList

/-- Several matches in a row, which is halved until a single one is left. -/
def copiesWithin (regex : Regex) : (limit : Nat) → Nat → Regex
  | _, 0 => .empty
  | _, 1 => regex
  | 0, _ => regex
  | limit + 1, count =>
      .seq (copiesWithin regex limit (count / 2))
        (copiesWithin regex limit (count - count / 2))

/-- Several matches in a row. -/
def copies (regex : Regex) (count : Nat) : Regex :=
  copiesWithin regex count count

end Regex

namespace Expression

mutual

/-- The regular expression of an expression. -/
def regex : Expression → Regex
  | .empty => .empty
  | .literal chars =>
      chars.foldr (fun char rest => .seq (.char false (CharSet.single char)) rest) .empty
  | .set chars => .char false chars
  | .assertion condition => .assertion condition
  | .repetition body least most _ =>
      let part := body.regex
      match most with
      | none => .seq (part.copies least) (.star part)
      | some most => .seq (part.copies least) ((Regex.alt part .empty).copies (most - least))
  | .group _ body => body.regex
  | .row parts => rowRegex parts
  | .choice parts => choiceRegex parts

/-- The regular expression of parts in a row. -/
def rowRegex : List Expression → Regex
  | [] => .empty
  | part :: rest => .seq part.regex (rowRegex rest)

/-- The regular expression of one of several parts. -/
def choiceRegex : List Expression → Regex
  | [] => .char false .empty
  | part :: rest => .alt part.regex (choiceRegex rest)

end

end Expression

end Blueprint.Pattern
