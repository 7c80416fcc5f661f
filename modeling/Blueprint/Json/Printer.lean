import Blueprint.Decimal.Notation
import Blueprint.Tree

/-!
# Writing trees as JSON

`Json.render` is the compact form without blanks, given a way to write numbers.
With that of `Json.number` it is the canonical text of a tree: messages and digests
are made from it.  `Json.renderIndented` is the form for reading, two blanks a level.
-/

namespace Blueprint.Json

/-- Floats are written with the fewest digits that read back, positionally from
`1e-5` to below `1e16`, otherwise with a signed exponent. -/
def numberForm : Decimal.Notation :=
  ⟨-5, 16, true⟩

/-- A hexadecimal digit in lower case. -/
def hexDigit (value : Nat) : Char :=
  Nat.digitChar value

/-- A character within quotes.  Quotes, backslashes and control characters are
escaped, with a letter where there is one; nothing else is. -/
def escape (char : Char) : List Char :=
  if char = '"' then ['\\', '"']
  else if char = '\\' then ['\\', '\\']
  else if char = '\n' then ['\\', 'n']
  else if char = '\r' then ['\\', 'r']
  else if char = '\t' then ['\\', 't']
  else if char = '\x08' then ['\\', 'b']
  else if char = '\x0c' then ['\\', 'f']
  else if char.toNat < 32 then
    ['\\', 'u', '0', '0', hexDigit (char.toNat / 16), hexDigit (char.toNat % 16)]
  else [char]

/-- A string in quotes. -/
def quoted (value : String) : List Char :=
  '"' :: value.toList.flatMap escape ++ ['"']

/-- A whole number in decimal. -/
def integer (value : Int) : List Char :=
  if value < 0 then '-' :: Decimal.digitsOf value.natAbs else Decimal.digitsOf value.natAbs

/-- A number.  Floats always have a point or an exponent, integers never do. -/
def number : Number → List Char
  | .int value => integer value
  | .float value => numberForm.render value

section

variable (write : Number → List Char)

mutual

/-- A tree in compact form. -/
def render : Tree → List Char
  | .null => ['n', 'u', 'l', 'l']
  | .bool true => ['t', 'r', 'u', 'e']
  | .bool false => ['f', 'a', 'l', 's', 'e']
  | .number value => write value
  | .string value => quoted value
  | .sequence items => '[' :: renderItems items
  | .mapping entries => '\x7b' :: renderEntries entries

/-- The items of a sequence and its closing bracket. -/
def renderItems : List Tree → List Char
  | [] => [']']
  | item :: rest => render item ++ renderMoreItems rest

/-- The items after the first one and the closing bracket. -/
def renderMoreItems : List Tree → List Char
  | [] => [']']
  | item :: rest => ',' :: render item ++ renderMoreItems rest

/-- The entries of a mapping and its closing brace. -/
def renderEntries : List (String × Tree) → List Char
  | [] => ['\x7d']
  | (key, value) :: rest => quoted key ++ ':' :: render value ++ renderMoreEntries rest

/-- The entries after the first one and the closing brace. -/
def renderMoreEntries : List (String × Tree) → List Char
  | [] => ['\x7d']
  | (key, value) :: rest => ',' :: quoted key ++ ':' :: render value ++ renderMoreEntries rest

end

end

/-- A line break and the blanks of a level. -/
def newLine (level : Nat) : List Char :=
  '\n' :: List.replicate (2 * level) ' '

mutual

/-- A tree over several lines, the parts of a collection one level deeper. -/
def renderIndented (level : Nat) : Tree → List Char
  | .null => ['n', 'u', 'l', 'l']
  | .bool true => ['t', 'r', 'u', 'e']
  | .bool false => ['f', 'a', 'l', 's', 'e']
  | .number value => number value
  | .string value => quoted value
  | .sequence [] => ['[', ']']
  | .sequence (item :: rest) =>
      '[' :: newLine (level + 1) ++ renderIndented (level + 1) item ++
        renderIndentedItems level rest
  | .mapping [] => ['\x7b', '\x7d']
  | .mapping ((key, value) :: rest) =>
      '\x7b' :: newLine (level + 1) ++ quoted key ++ [':', ' '] ++
        renderIndented (level + 1) value ++ renderIndentedEntries level rest

/-- The items after the first one, each on a line, and the closing bracket. -/
def renderIndentedItems (level : Nat) : List Tree → List Char
  | [] => newLine level ++ [']']
  | item :: rest =>
      ',' :: newLine (level + 1) ++ renderIndented (level + 1) item ++
        renderIndentedItems level rest

/-- The entries after the first one, each on a line, and the closing brace. -/
def renderIndentedEntries (level : Nat) : List (String × Tree) → List Char
  | [] => newLine level ++ ['\x7d']
  | (key, value) :: rest =>
      ',' :: newLine (level + 1) ++ quoted key ++ [':', ' '] ++
        renderIndented (level + 1) value ++ renderIndentedEntries level rest

end

/-- The canonical text of a tree. -/
def text (tree : Tree) : String :=
  String.ofList (render number tree)

/-- The text of a tree for reading. -/
def indentedText (tree : Tree) : String :=
  String.ofList (renderIndented 0 tree)

end Blueprint.Json
