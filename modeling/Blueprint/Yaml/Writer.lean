import Blueprint.Decimal.Notation
import Blueprint.Json.Printer
import Blueprint.Yaml.Reader

/-!
# Writing YAML

Trees are written in block style, with empty collections as `[]` and `{}`.
Collections inside others are indented by two, except that a sequence stands
below its key without indentation.

A string is written plain where it reads back as that string, in single quotes
where it could be taken for something else, as a literal block where it has
several lines, and in double quotes where it has characters that only escapes
can spell.

Text is gathered last character first, so that the start of a line can be told.
-/

namespace Blueprint.Yaml

/-- Floats are written positionally from `1e-5` to below `1e16`. -/
def numberForm : Decimal.Notation :=
  ⟨-5, 16, false⟩

/-- How a string is written. -/
inductive Style where
  | plain
  | singleQuoted
  | doubleQuoted
  | literal
deriving DecidableEq

/-! ## The style of a string -/

/-- Characters that can stand for themselves. -/
def isPrintable (char : Char) : Bool :=
  let code := char.toNat
  code == 0xA || (0x20 ≤ code && code ≤ 0x7E) || (0xA0 ≤ code && code ≤ 0xD7FF) ||
    (0xE000 ≤ code && code ≤ 0xFFFD && code != 0xFEFF) || 0x10000 ≤ code

/-- The pairs of neighbours in a text. -/
def neighbours (chars : List Char) : List (Char × Char) :=
  chars.zip (chars.drop 1)

/-- Whether a plain scalar could not begin as a text does. -/
def beginsLikeStructure : List Char → Bool
  | [] => false
  | first :: rest =>
      "#,[]\x7b\x7d&*!|>'\"%@\x60".contains first ||
        ("?:-".contains first && startsWithGap rest) ||
        first == '-' && rest.take 2 == ['-', '-'] ||
        first == '.' && rest.take 2 == ['.', '.']

/-- Whether a text has a colon before a gap or a number sign after one. -/
def containsStructure (chars : List Char) : Bool :=
  chars.getLast? == some ':' ||
    (neighbours chars).any fun (left, right) =>
      (left == ':' && isGap right) || (isGap left && right == '#')

/-- Whether a text has spaces next to line ends or characters that need escapes. -/
def needsDoubleQuotes (chars : List Char) : Bool :=
  !chars.all isPrintable ||
    (neighbours chars).any fun (left, right) => left == ' ' && isBreak right

/-- Whether single quotes would lose something of a text. -/
def unfitForSingleQuotes (chars : List Char) : Bool :=
  needsDoubleQuotes chars ||
    (neighbours chars).any fun (left, right) => isBreak left && right == ' '

/-- Whether a text without quotes would lose something or be no scalar. -/
def unfitForPlain (chars : List Char) : Bool :=
  !chars.all isPrintable || chars.any isBreak || chars.head? == some ' ' ||
    chars.getLast? == some ' ' || beginsLikeStructure chars || containsStructure chars

/-- Whether a text without quotes would not be read as a string, or only because of
the zeros before its digits. -/
def isAmbiguous (text : String) : Bool :=
  let isString :=
    match plainTree? text with
    | some (.string _) => true
    | _ => false
  !isString || hasLeadingZero text.toList

/-- The style of a string. -/
def styleOf (text : String) : Style :=
  let chars := text.toList
  let quoted := if unfitForSingleQuotes chars then Style.doubleQuoted else .singleQuoted
  if chars.contains '\n' then
    if needsDoubleQuotes chars || chars.getLast? == some ' ' then .doubleQuoted else .literal
  else if isAmbiguous text || unfitForPlain chars then quoted
  else .plain

/-! ## Strings -/

/-- A number in hexadecimal digits, as many as asked for. -/
def hexDigits (count code : Nat) : List Char :=
  (List.range count).reverse.map fun place => (Nat.digitChar (code / Nat.pow 16 place % 16)).toUpper

/-- A character between double quotes. -/
def escape (char : Char) : List Char :=
  let code := char.toNat
  match char with
  | '"' => ['\\', '"']
  | '\\' => ['\\', '\\']
  | '\x00' => ['\\', '0']
  | '\x07' => ['\\', 'a']
  | '\x08' => ['\\', 'b']
  | '\t' => ['\\', 't']
  | '\n' => ['\\', 'n']
  | '\x0b' => ['\\', 'v']
  | '\x0c' => ['\\', 'f']
  | '\r' => ['\\', 'r']
  | '\x1b' => ['\\', 'e']
  | '\x85' => ['\\', 'N']
  | '\u2028' => ['\\', 'L']
  | '\u2029' => ['\\', 'P']
  | _ =>
      if isPrintable char then [char]
      else if code ≤ 0xFF then ['\\', 'x'] ++ hexDigits 2 code
      else if code ≤ 0xFFFF then ['\\', 'u'] ++ hexDigits 4 code
      else ['\\', 'U'] ++ hexDigits 8 code

/-- Go to the start of a line, unless one was begun, and indent it. -/
def newLine (indent : Nat) (written : List Char) : List Char :=
  let ended :=
    match written with
    | [] => []
    | last :: _ => if isBreak last then written else '\n' :: written
  List.replicate indent ' ' ++ ended

/-- Add a text whose lines are indented. -/
def addLines (indent : Nat) (chars written : List Char) : List Char :=
  chars.foldl
    (fun written char =>
      let atStart := written.head?.any isBreak
      if atStart && !isBreak char then char :: (List.replicate indent ' ' ++ written)
      else char :: written)
    written

/-- The header of a literal block.  The indentation is given where the text begins
with a space or line end. -/
def literalHeader (chars : List Char) : List Char :=
  let indentation :=
    match chars with
    | first :: _ => if first == ' ' || isBreak first then ['2'] else []
    | [] => []
  let chomping :=
    match chars.reverse with
    | [] => ['-']
    | last :: rest =>
        if !isBreak last then ['-']
        else if rest.head?.all isBreak then ['+']
        else []
  '|' :: indentation ++ chomping

/-- Add a string. -/
def addString (indent : Nat) (text : String) (written : List Char) : List Char :=
  let chars := text.toList
  match styleOf text with
  | .plain => chars.reverse ++ written
  | .singleQuoted =>
      let doubled := chars.flatMap fun char => if char == '\'' then ['\'', '\''] else [char]
      addLines indent (doubled ++ ['\'']) ('\'' :: written)
  | .doubleQuoted => '"' :: ((chars.flatMap escape).reverse ++ '"' :: written)
  | .literal => addLines indent chars ('\n' :: ((literalHeader chars).reverse ++ written))

/-! ## Trees -/

/-- The text of a number. -/
def number : Number → List Char
  | .int value => Json.integer value
  | .float value => numberForm.render value

/-- Whether a key fits on the line of its value. -/
def isShortKey (key : String) : Bool :=
  !key.toList.any isBreak && key.utf8ByteSize ≤ 128

/-- Where a node is written. -/
inductive Position where
  /-- At the start of the document. -/
  | document
  /-- After a short key. -/
  | afterKey
  /-- After the mark of an item or of a part of an entry. -/
  | afterMark

namespace Position

/-- The indentation of the items of a sequence. -/
def itemIndent (indent : Nat) : Position → Nat
  | .document | .afterKey => indent
  | .afterMark => indent + 2

/-- The indentation of the entries of a mapping. -/
def entryIndent (indent : Nat) : Position → Nat
  | .document => indent
  | .afterKey | .afterMark => indent + 2

/-- Go to where the first part of a collection is written. -/
def enter (indent : Nat) (written : List Char) : Position → List Char
  | .document => written
  | .afterKey => newLine indent written
  | .afterMark => ' ' :: written

/-- Go to where a scalar is written. -/
def space (written : List Char) : Position → List Char
  | .document => written
  | .afterKey | .afterMark => ' ' :: written

end Position

mutual

/-- Add a node, given the indentation of the collection around it. -/
def addNode (indent : Nat) (position : Position) (written : List Char) : Tree → List Char
  | .null => "null".toList.reverse ++ position.space written
  | .bool value => (if value then "true" else "false").toList.reverse ++ position.space written
  | .number value => (number value).reverse ++ position.space written
  | .string value => addString (indent + 2) value (position.space written)
  | .sequence items =>
      if items.isEmpty then ']' :: '[' :: position.space written
      else
        let inner := position.itemIndent indent
        addItems inner true (position.enter inner written) items
  | .mapping entries =>
      if entries.isEmpty then '\x7d' :: '\x7b' :: position.space written
      else
        let inner := position.entryIndent indent
        addEntries inner true (position.enter inner written) entries

/-- Add the items of a sequence, each on a line of its own. -/
def addItems (indent : Nat) (first : Bool) (written : List Char) : List Tree → List Char
  | [] => written
  | item :: rest =>
      let start := if first then written else newLine indent written
      addItems indent false (addNode indent .afterMark ('-' :: start) item) rest

/-- Add the entries of a mapping.  A long key or one of several lines has a mark of
its own. -/
def addEntries (indent : Nat) (first : Bool) (written : List Char) :
    List (String × Tree) → List Char
  | [] => written
  | (key, value) :: rest =>
      let start := if first then written else newLine indent written
      let entry :=
        if isShortKey key then
          addNode indent .afterKey (':' :: addString (indent + 2) key start) value
        else
          let keyed := addString (indent + 2) key (' ' :: '?' :: start)
          addNode indent .afterMark (':' :: newLine indent keyed) value
      addEntries indent false entry rest

end

/-- The text of a tree, which ends with a line end. -/
def text (tree : Tree) : String :=
  String.ofList (newLine 0 (addNode 0 .document [] tree)).reverse

end Blueprint.Yaml
