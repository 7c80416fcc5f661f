/-!
# YAML tokens

The lexical units of YAML and the classes of characters that tell them apart.
Block structure, which a document shows by indentation, is explicit in the
tokens: a block collection has a start and an end.
-/

namespace Blueprint.Yaml

/-- The octets of a text. -/
def octets (text : String) : List UInt8 :=
  text.toUTF8.toList

/-- A tag.  Since percent escapes spell single octets, its name need not be text. -/
structure Tag where
  /-- The octets of the name. -/
  name : List UInt8
deriving DecidableEq

namespace Tag

/-- The name as a text. -/
def text? (tag : Tag) : Option String :=
  String.fromUTF8? ⟨tag.name.toArray⟩

/-- Whether a tag begins like one of the document's own. -/
def hasLocalMark (tag : Tag) : Bool :=
  tag.name.head? == some '!'.toUInt8

/-- Whether a tag is one of the document's own.  Those have to be text. -/
def isLocal (tag : Tag) : Bool :=
  tag.hasLocalMark && tag.text?.isSome

end Tag

/-- A lexical unit of YAML. -/
inductive Token where
  | versionDirective (major minor : Nat)
  | tagDirective (handle : String) (replacement : List UInt8)
  | documentStart
  | documentEnd
  | blockSequenceStart
  | blockMappingStart
  | blockEnd
  | flowSequenceStart
  | flowSequenceEnd
  | flowMappingStart
  | flowMappingEnd
  | blockEntry
  | flowEntry
  | key
  | value
  | alias (name : String)
  | anchor (name : String)
  | tag (handle : String) (suffix : List UInt8)
  /-- A scalar, and whether it is written without quotes and block indicators. -/
  | scalar (text : String) (plain : Bool)
deriving DecidableEq

/-- Whether a token begins a document explicitly. -/
def Token.isDocumentHead : Token → Bool
  | .versionDirective .. | .tagDirective .. | .documentStart => true
  | _ => false

/-- Blanks within a line. -/
def isBlank (char : Char) : Bool :=
  char == ' ' || char == '\t'

/-- Characters that end a line. -/
def isBreak (char : Char) : Bool :=
  char == '\n' || char == '\r' || char == '\x85' || char == '\u2028' || char == '\u2029'

/-- Blanks and line ends. -/
def isGap (char : Char) : Bool :=
  isBlank char || isBreak char

/-- Whether a text begins with a blank or line end, or is at its end. -/
def startsWithGap : List Char → Bool
  | [] => true
  | char :: _ => isGap char

/-- Characters of anchors and of handles. -/
def isNameChar (char : Char) : Bool :=
  char.isAlphanum || char == '_' || char == '-'

/-- Characters that a text may have at all. -/
def isAllowed (char : Char) : Bool :=
  let code := char.toNat
  code == 0x9 || code == 0xA || code == 0xD || (0x20 ≤ code && code ≤ 0x7E) || code == 0x85 ||
    (0xA0 ≤ code && code ≤ 0xD7FF) || (0xE000 ≤ code && code ≤ 0xFFFD) ||
    (0x10000 ≤ code && code ≤ 0x10FFFF)

/-- The number of octets of some characters. -/
def octetCount (chars : List Char) : Nat :=
  chars.foldl (fun count char => count + char.utf8Size) 0

/-- A place in a text. -/
structure Cursor where
  /-- The text from there on. -/
  rest : List Char
  /-- The number of octets before it. -/
  index : Nat
  /-- The number of lines before it. -/
  line : Nat
  /-- The number of characters before it in its line. -/
  column : Nat
  /-- The number of characters of the whole text, which bounds every walk from here. -/
  size : Nat

namespace Cursor

/-- The start of a text. -/
def start (text : List Char) : Cursor :=
  ⟨text, 0, 0, 0, text.length⟩

/-- The place after some characters of the same line. -/
def skip (cursor : Cursor) (count : Nat) : Cursor :=
  { cursor with
    rest := cursor.rest.drop count
    index := cursor.index + octetCount (cursor.rest.take count)
    column := cursor.column + count }

/-- The place after the characters of the same line that pass a test. -/
def skipWhile (cursor : Cursor) (passes : Char → Bool) : Cursor :=
  cursor.skip (cursor.rest.takeWhile passes).length

/-- The start of the next line, at a line end.  Carriage return and line feed
together are one line end. -/
def nextLine (cursor : Cursor) : Cursor :=
  let next (rest : List Char) (count : Nat) : Cursor :=
    { cursor with
      rest
      index := cursor.index + octetCount (cursor.rest.take count)
      line := cursor.line + 1
      column := 0 }
  match cursor.rest with
  | '\r' :: '\n' :: rest => next rest 2
  | _ :: rest => next rest 1
  | [] => cursor

/-- How a line end counts in a scalar. -/
def breakText (cursor : Cursor) : List Char :=
  match cursor.rest with
  | '\u2028' :: _ => ['\u2028']
  | '\u2029' :: _ => ['\u2029']
  | char :: _ => if isBreak char then ['\n'] else []
  | [] => []

/-- Whether there is a line end. -/
def atBreak (cursor : Cursor) : Bool :=
  match cursor.rest with
  | char :: _ => isBreak char
  | [] => false

/-- Whether there is a blank. -/
def atBlank (cursor : Cursor) : Bool :=
  match cursor.rest with
  | char :: _ => isBlank char
  | [] => false

/-- Whether a line begins here with a byte order mark. -/
def atByteOrderMark (cursor : Cursor) : Bool :=
  cursor.column == 0 && cursor.rest.head? == some '\ufeff'

/-- Whether a line begins here that marks the start or end of a document. -/
def atDocumentMark (cursor : Cursor) : Bool :=
  cursor.column == 0 &&
    match cursor.rest with
    | '-' :: '-' :: '-' :: rest => startsWithGap rest
    | '.' :: '.' :: '.' :: rest => startsWithGap rest
    | _ => false

/-- Skip blanks, a comment and the end of the line.  None if something else
follows. -/
def finishLine? (cursor : Cursor) : Option Cursor :=
  let blanks := cursor.skipWhile isBlank
  let comment :=
    match blanks.rest with
    | '#' :: _ => blanks.skipWhile (!isBreak ·)
    | _ => blanks
  match comment.rest with
  | [] => some comment
  | char :: _ => if isBreak char then some comment.nextLine else none

end Cursor

end Blueprint.Yaml
