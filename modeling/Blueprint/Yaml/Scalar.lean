import Blueprint.Yaml.Token

/-!
# YAML scalars

The text of a scalar, from its first character on, in each of the four styles:
plain, quoted with single or double quotes, and as a literal or folded block.

In all but literal blocks a single line end counts as a blank, and of several
ones the first is dropped.
-/

namespace Blueprint.Yaml

/-- The text that has been read, last character first, and the gap after it: the
blanks or, if the gap spans lines, its first line end and the further ones. -/
structure Gathered where
  /-- The characters of the scalar, last first. -/
  text : List Char
  /-- The blanks after them, last first. -/
  blanks : List Char
  /-- The first line end after them. -/
  firstBreak : List Char
  /-- The further line ends, last first. -/
  breaks : List Char
  /-- Whether the gap spans lines. -/
  spansLines : Bool

namespace Gathered

/-- Nothing read yet. -/
def empty : Gathered :=
  ⟨[], [], [], [], false⟩

/-- Turn the gap into text: blanks stay, a line end becomes a blank, and of
several ones the first is dropped unless it is a special one. -/
def closeGap (gathered : Gathered) : Gathered :=
  let text :=
    if gathered.spansLines then
      if gathered.firstBreak == ['\n'] then
        if gathered.breaks.isEmpty then ' ' :: gathered.text else gathered.breaks ++ gathered.text
      else gathered.breaks ++ gathered.firstBreak ++ gathered.text
    else gathered.blanks ++ gathered.text
  ⟨text, [], [], [], false⟩

/-- Add a character. -/
def push (gathered : Gathered) (char : Char) : Gathered :=
  { gathered with text := char :: gathered.text }

/-- Add a blank to the gap.  Blanks at the start of a line do not count. -/
def addBlank (gathered : Gathered) (char : Char) : Gathered :=
  if gathered.spansLines then gathered else { gathered with blanks := char :: gathered.blanks }

/-- Add a line end to the gap. -/
def addBreak (gathered : Gathered) (text : List Char) : Gathered :=
  if gathered.spansLines then { gathered with breaks := text ++ gathered.breaks }
  else { gathered with blanks := [], firstBreak := text, spansLines := true }

/-- The scalar. -/
def result (gathered : Gathered) : String :=
  String.ofList gathered.text.reverse

end Gathered

/-- Read a gap, of at most `limit` characters.  In a plain scalar a tab must not
stand where a line is indented. -/
def gap? (indent : Option Nat) : (limit : Nat) → Cursor → Gathered → Option (Cursor × Gathered)
  | 0, cursor, gathered => some (cursor, gathered)
  | limit + 1, cursor, gathered =>
      match cursor.rest with
      | [] => some (cursor, gathered)
      | char :: _ =>
          if isBlank char then
            if char == '\t' && gathered.spansLines && indent.any (cursor.column < ·) then none
            else gap? indent limit (cursor.skip 1) (gathered.addBlank char)
          else if isBreak char then
            gap? indent limit cursor.nextLine (gathered.addBreak cursor.breakText)
          else some (cursor, gathered)

/-! ## Plain scalars -/

/-- Characters that structure flow collections. -/
def isFlowIndicator (char : Char) : Bool :=
  char == ',' || char == '[' || char == ']' || char == '\x7b' || char == '\x7d'

/-- Whether a plain scalar ends at a text within a line. -/
def plainEnds (inFlow : Bool) : List Char → Bool
  | [] => true
  | ':' :: rest => startsWithGap rest
  | char :: _ => isGap char || (inFlow && isFlowIndicator char)

/-- Whether a colon stands before a flow indicator, which is not allowed. -/
def misplacedColon (inFlow : Bool) : List Char → Bool
  | ':' :: next :: _ => inFlow && (isFlowIndicator next || next == '?')
  | _ => false

/-- Read a plain scalar, of at most `limit` characters.  Its lines are indented by
at least `indent`.  Answers what was read with the gap after it. -/
def plainScalar? (inFlow : Bool) (indent : Nat) : (limit : Nat) → Cursor → Gathered →
    Option (Cursor × Gathered)
  | 0, cursor, gathered => some (cursor, gathered)
  | limit + 1, cursor, gathered =>
      match cursor.rest with
      | [] => some (cursor, gathered)
      | char :: _ =>
          if misplacedColon inFlow cursor.rest then none
          else if plainEnds inFlow cursor.rest then
            if isGap char then
              match gap? (some indent) (limit + 1) cursor gathered with
              | none => none
              | some (cursor, gathered) =>
                  let ends := (!inFlow && cursor.column < indent) || cursor.atDocumentMark ||
                    cursor.rest.head? == some '#'
                  if ends then some (cursor, gathered)
                  else plainScalar? inFlow indent limit cursor gathered
            else some (cursor, gathered)
          else plainScalar? inFlow indent limit (cursor.skip 1) (gathered.closeGap.push char)

/-! ## Quoted scalars -/

/-- The value of a hexadecimal digit. -/
def hexDigit? (char : Char) : Option Nat :=
  if char.isDigit then some (char.toNat - '0'.toNat)
  else if 'a' ≤ char ∧ char ≤ 'f' then some (char.toNat - 'a'.toNat + 10)
  else if 'A' ≤ char ∧ char ≤ 'F' then some (char.toNat - 'A'.toNat + 10)
  else none

/-- The number of some hexadecimal digits. -/
def hexNumber? (digits : List Char) : Option Nat :=
  (digits.mapM hexDigit?).map fun values =>
    values.foldl (fun number value => 16 * number + value) 0

/-- The character of an escape and the number of characters of the escape after
its backslash. -/
def escaped? : List Char → Option (Char × Nat)
  | [] => none
  | letter :: rest =>
      let hex (count : Nat) : Option (Char × Nat) :=
        let digits := rest.take count
        if digits.length < count then none
        else
          (hexNumber? digits).bind fun code =>
            if code.isValidChar then some (Char.ofNat code, count + 1) else none
      match letter with
      | '0' => some ('\x00', 1)
      | 'a' => some ('\x07', 1)
      | 'b' => some ('\x08', 1)
      | 't' | '\t' => some ('\t', 1)
      | 'n' => some ('\n', 1)
      | 'v' => some ('\x0b', 1)
      | 'f' => some ('\x0c', 1)
      | 'r' => some ('\r', 1)
      | 'e' => some ('\x1b', 1)
      | ' ' => some (' ', 1)
      | '"' => some ('"', 1)
      | '/' => some ('/', 1)
      | '\\' => some ('\\', 1)
      | 'N' => some ('\x85', 1)
      | '_' => some ('\xa0', 1)
      | 'L' => some ('\u2028', 1)
      | 'P' => some ('\u2029', 1)
      | 'x' => hex 2
      | 'u' => hex 4
      | 'U' => hex 8
      | _ => none

/-- Read a quoted scalar after its quote, of at most `limit` characters.  In double
quotes a backslash at the end of a line joins it to the next one. -/
def quotedScalar? (double : Bool) : (limit : Nat) → Cursor → Gathered → Option (Cursor × Gathered)
  | 0, _, _ => none
  | limit + 1, cursor, gathered =>
      if cursor.atDocumentMark then none
      else
        let more := quotedScalar? double limit
        match double, cursor.rest with
        | _, [] => none
        | false, '\'' :: '\'' :: _ => more (cursor.skip 2) (gathered.push '\'')
        | false, '\'' :: _ => some (cursor.skip 1, gathered)
        | true, '"' :: _ => some (cursor.skip 1, gathered)
        | true, '\\' :: next :: rest =>
            if isBreak next then
              let joined := { gathered with spansLines := true }
              match gap? none limit (cursor.skip 1).nextLine joined with
              | none => none
              | some (cursor, gathered) => more cursor (joinLines gathered)
            else
              match escaped? (next :: rest) with
              | none => none
              | some (char, count) => more (cursor.skip (count + 1)) (gathered.push char)
        | _, char :: _ =>
            if isGap char then
              match gap? none (limit + 1) cursor gathered with
              | none => none
              | some (cursor, gathered) => more cursor gathered.closeGap
            else more (cursor.skip 1) (gathered.push char)
where
  /-- After a joined line end only further line ends count. -/
  joinLines (gathered : Gathered) : Gathered :=
    ⟨gathered.breaks ++ gathered.firstBreak ++ gathered.text, [], [], [], false⟩

/-! ## Block scalars -/

/-- What becomes of the line ends at the end of a block. -/
inductive Chomping where
  | strip
  | clip
  | keep
deriving DecidableEq

/-- The chomping and the indentation in the header of a block, in either order. -/
def blockHeader? (cursor : Cursor) : Option (Chomping × Option Nat × Cursor) :=
  let chomping? : Char → Option Chomping := fun char =>
    if char == '+' then some .keep else if char == '-' then some .strip else none
  let digit (char : Char) : Nat := char.toNat - '0'.toNat
  match cursor.rest with
  | [] => some (.clip, none, cursor)
  | first :: rest =>
      match chomping? first with
      | some chomping =>
          match rest with
          | second :: _ =>
              if second == '0' then none
              else if second.isDigit then some (chomping, some (digit second), cursor.skip 2)
              else some (chomping, none, cursor.skip 1)
          | [] => some (chomping, none, cursor.skip 1)
      | none =>
          if first == '0' then none
          else if first.isDigit then
            match rest.head?.bind chomping? with
            | some chomping => some (chomping, some (digit first), cursor.skip 2)
            | none => some (.clip, some (digit first), cursor.skip 1)
          else some (.clip, none, cursor)

/-- Skip the empty lines before a line of a block, of at most `limit` characters.
As long as the indentation is not known, the deepest of these lines is noted.  A
tab must not stand where a line is indented. -/
def blockBreaks? (indent : Option Nat) : (limit deepest : Nat) → Cursor → List Char →
    Option (Cursor × Nat × List Char)
  | 0, deepest, cursor, breaks => some (cursor, deepest, breaks)
  | limit + 1, deepest, cursor, breaks =>
      let spaces := (cursor.rest.takeWhile (· == ' ')).length
      let cursor := cursor.skip (indent.elim spaces fun indent => min spaces (indent - cursor.column))
      let deepest := max deepest cursor.column
      let shallow := indent.all (cursor.column < ·)
      if shallow && cursor.rest.head? == some '\t' then none
      else if cursor.atBreak then
        blockBreaks? indent limit deepest cursor.nextLine (cursor.breakText ++ breaks)
      else some (cursor, deepest, breaks)

/-- What has been read of a block: its text, the line end after it and the empty
lines after that, all last first, and whether its last line begins with a blank. -/
structure Block where
  text : List Char
  lineEnd : List Char
  breaks : List Char
  blank : Bool

/-- Read the lines of a block, at most `limit`. -/
def blockLines? (literal : Bool) (indent : Nat) : (limit : Nat) → Cursor → Block →
    Option (Cursor × Block)
  | 0, cursor, block => some (cursor, block)
  | limit + 1, cursor, block =>
      if cursor.column ≠ indent ∨ cursor.rest.isEmpty then some (cursor, block)
      else
        let blank := cursor.atBlank
        let folds := !literal && block.lineEnd == ['\n'] && !block.blank && !blank
        let joined :=
          if folds then if block.breaks.isEmpty then [' '] else [] else block.lineEnd
        let content := cursor.rest.takeWhile (!isBreak ·)
        let text := content.reverse ++ block.breaks ++ joined ++ block.text
        let atEnd := cursor.skip content.length
        match blockBreaks? (some indent) (limit + 1) 0 atEnd.nextLine [] with
        | none => none
        | some (next, _, breaks) =>
            blockLines? literal indent limit next ⟨text, atEnd.breakText, breaks, blank⟩

/-- Read a block scalar after its indicator.  `parent` is the indentation of the
enclosing block, if there is one. -/
def blockScalar? (literal : Bool) (parent : Option Nat) (cursor : Cursor) :
    Option (Cursor × String) := do
  let (chomping, increment, cursor) ← blockHeader? cursor
  let cursor ← cursor.finishLine?
  let given := increment.map fun increment => parent.getD 0 + increment
  let (cursor, deepest, breaks) ← blockBreaks? given (cursor.size + 1) 0 cursor []
  let least :=
    match parent with
    | none => 1
    | some parent => max (parent + 1) 1
  let indent := given.getD (max deepest least)
  let (cursor, block) ←
    blockLines? literal indent (cursor.size + 1) cursor ⟨[], [], breaks, false⟩
  let text :=
    match chomping with
    | .strip => block.text
    | .clip => block.lineEnd ++ block.text
    | .keep => block.breaks ++ block.lineEnd ++ block.text
  some (cursor, String.ofList text.reverse)

end Blueprint.Yaml
