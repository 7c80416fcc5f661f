import Blueprint.Yaml.Scalar

/-!
# From a text to YAML tokens

A lexer goes through a text and adds tokens one or two at a time.  It keeps the
columns of the open block collections, so that their ends become tokens, and the
place where a mapping key may have begun: only the colon after a key shows that
it was one, and the tokens before the key are then inserted where it began.
-/

namespace Blueprint.Yaml

/-! ## Handles, tags and anchors -/

namespace Cursor

/-- The characters that pass a test, and the place after them. -/
def span (cursor : Cursor) (passes : Char → Bool) : List Char × Cursor :=
  let run := cursor.rest.takeWhile passes
  (run, cursor.skip run.length)

/-- Skip one given character. -/
def expect? (cursor : Cursor) (char : Char) : Option Cursor :=
  if cursor.rest.head? = some char then some (cursor.skip 1) else none

end Cursor

/-- The octet of a percent escape. -/
def escapedOctet? : List Char → Option Nat
  | '%' :: high :: low :: _ => hexNumber? [high, low]
  | _ => none

/-- The octets that percent escapes spell, as many as the first one announces.
Those after it have to be continuations, and more is not asked of them. -/
def percentEscape? (text : List Char) : Option (List UInt8) := do
  let first ← escapedOctet? text
  let count ←
    if first < 0x80 then some 1
    else if first / 0x20 = 0b110 then some 2
    else if first / 0x10 = 0b1110 then some 3
    else if first / 0x8 = 0b11110 then some 4
    else none
  let rest ← ((List.range count).drop 1).mapM fun place =>
    (escapedOctet? (text.drop (3 * place))).bind fun octet =>
      if octet / 0x40 = 0b10 then some octet else none
  some ((first :: rest).map UInt8.ofNat)

/-- Characters of resource names that stand for themselves.  Flow indicators do so
in the wide form only. -/
def isUriChar (wide : Bool) (char : Char) : Bool :=
  isNameChar char || ";/?:@&=+$.!~*'()".contains char ||
    (wide && (char == ',' || char == '[' || char == ']'))

/-- Read a resource name of at most `limit` characters. -/
def uri? (wide : Bool) : (limit : Nat) → Cursor → Option (List UInt8 × Cursor)
  | 0, cursor => some ([], cursor)
  | limit + 1, cursor =>
      match cursor.rest with
      | [] => some ([], cursor)
      | char :: _ =>
          let next? : Option (List UInt8 × Nat) :=
            if char == '%' then (percentEscape? cursor.rest).map fun found => (found, 3 * found.length)
            else if isUriChar wide char then some ([char.toUInt8], 1)
            else some ([], 0)
          next?.bind fun (found, count) =>
            if count = 0 then some ([], cursor)
            else
              (uri? wide limit (cursor.skip count)).map fun (name, after) => (found ++ name, after)

/-- The octets of a name that count: those before the first zero. -/
def untilZero (name : List UInt8) : List UInt8 :=
  name.takeWhile (· != 0)

/-- Read a tag handle: an exclamation mark, a name and perhaps another mark. -/
def handle? (cursor : Cursor) : Option (List Char × Cursor) := do
  let (name, after) := (← cursor.expect? '!').span isNameChar
  match after.rest with
  | '!' :: _ => some ('!' :: name ++ ['!'], after.skip 1)
  | _ => some ('!' :: name, after)

/-- Read a tag.  It is followed by a gap or, in a flow collection, by a comma. -/
def tag? (inFlow : Bool) (cursor : Cursor) : Option (Token × Cursor) := do
  let limit := cursor.size
  let (token, after) ←
    match cursor.rest with
    | '!' :: '<' :: _ =>
        let (name, after) ← uri? true limit (cursor.skip 2)
        let after ← after.expect? '>'
        if name.isEmpty then none else some (Token.tag "" (untilZero name), after)
    | _ =>
        let (handle, after) ← handle? cursor
        let (name, after) ← uri? false limit after
        if 1 < handle.length ∧ handle.getLast? = some '!' then
          if name.isEmpty then none
          else some (Token.tag (String.ofList handle) (untilZero name), after)
        else
          let suffix := untilZero ((handle.drop 1).map Char.toUInt8 ++ name)
          if suffix.isEmpty then some (Token.tag "" (octets "!"), after)
          else some (Token.tag "!" suffix, after)
  if startsWithGap after.rest || (inFlow && after.rest.head? == some ',') then
    some (token, after)
  else none

/-- Read the name of an anchor or alias after its indicator. -/
def anchorName? (cursor : Cursor) : Option (String × Cursor) :=
  let (name, after) := cursor.span isNameChar
  let ends :=
    match after.rest with
    | [] => true
    | char :: _ => isGap char || "?:,]\x7d%@\x60".contains char
  if name.isEmpty || !ends then none else some (String.ofList name, after)

/-! ## Directives -/

/-- Read a part of a version number. -/
def versionNumber? (cursor : Cursor) : Option (Nat × Cursor) :=
  let (digits, after) := cursor.span Char.isDigit
  if digits.isEmpty || 9 < digits.length then none
  else some (digits.foldl (fun number digit => 10 * number + (digit.toNat - '0'.toNat)) 0, after)

/-- Read a directive after its percent sign, with the rest of its line. -/
def directive? (cursor : Cursor) : Option (Token × Cursor) := do
  let (name, after) := cursor.span isNameChar
  if !startsWithGap after.rest then none
  else
    let start := after.skipWhile isBlank
    let (token, after) ←
      match String.ofList name with
      | "YAML" =>
          let (major, after) ← versionNumber? start
          let (minor, after) ← versionNumber? (← after.expect? '.')
          some (Token.versionDirective major minor, after)
      | "TAG" =>
          let (handle, after) ← handle? start
          if 1 < handle.length ∧ handle.getLast? ≠ some '!' then none
          else if !after.atBlank then none
          else
            let start := after.skipWhile isBlank
            let (replacement, after) ← uri? true start.size start
            if replacement.isEmpty || !startsWithGap after.rest then none
            else
              some (Token.tagDirective (String.ofList handle) (untilZero replacement), after)
      | _ => none
    some (token, ← after.finishLine?)

/-! ## The lexer -/

/-- A place where a mapping key may have begun. -/
structure KeyStart where
  /-- The number of tokens before it. -/
  token : Nat
  /-- Its place in the text. -/
  cursor : Cursor
  /-- Whether something that is no key would be out of place here. -/
  required : Bool

/-- Whether what begins at a place is too long for a key once another place is
reached: a key is on one line and has at most 1024 octets. -/
def KeyStart.isOutgrown (key : KeyStart) (reached : Cursor) : Bool :=
  key.cursor.line < reached.line || key.cursor.index + 1024 < reached.index

/-- How far a text has been cut into tokens. -/
structure Lexer where
  /-- The place reached. -/
  cursor : Cursor
  /-- The tokens so far. -/
  tokens : Array Token
  /-- The columns of the open block collections, innermost first. -/
  columns : List Nat
  /-- Where a key of the innermost collection may have begun. -/
  keyStart : Option KeyStart
  /-- The same for the collections around each open flow collection, innermost
  first. -/
  outerKeyStarts : List (Option KeyStart)
  /-- Whether a key may begin at the place reached. -/
  keyAllowed : Bool

namespace Lexer

/-- At the start of a text. -/
def start (text : List Char) : Lexer :=
  ⟨.start text, #[], [], none, [], true⟩

/-- Whether a flow collection is open. -/
def inFlow (lexer : Lexer) : Bool :=
  !lexer.outerKeyStarts.isEmpty

/-- Add a token that ends at a place. -/
def emit (lexer : Lexer) (token : Token) (after : Cursor) : Lexer :=
  { lexer with tokens := lexer.tokens.push token, cursor := after }

/-- Say whether a key may begin at the place reached. -/
def allowKey (lexer : Lexer) (allowed : Bool) : Lexer :=
  { lexer with keyAllowed := allowed }

/-- Close the innermost block collections, as long as their columns pass a test. -/
def closeTo (lexer : Lexer) (closes : Nat → Bool) : Lexer :=
  if lexer.inFlow then lexer
  else
    let closed := lexer.columns.takeWhile closes
    { lexer with
      tokens := lexer.tokens ++ Array.replicate closed.length Token.blockEnd
      columns := lexer.columns.drop closed.length }

/-- Open a block collection at a column unless one is open there already.  Its
first token goes before the token at an index. -/
def openBlock (lexer : Lexer) (column index : Nat) (token : Token) : Lexer :=
  if lexer.inFlow || lexer.columns.head?.any (column ≤ ·) then lexer
  else
    { lexer with
      columns := column :: lexer.columns
      tokens := lexer.tokens.insertIdxIfInBounds index token }

/-- Give up the key start: something follows that no key contains. -/
def dropKeyStart? (lexer : Lexer) : Option Lexer :=
  if lexer.keyStart.any (·.required) then none else some { lexer with keyStart := none }

/-- Give up the key start if it has become too old.  Those around the open flow
collections are looked at when the collections end: they do not get younger. -/
def dropOutgrownKeyStart? (lexer : Lexer) : Option Lexer :=
  if lexer.keyStart.any (·.isOutgrown lexer.cursor) then lexer.dropKeyStart? else some lexer

/-- Note that a key may begin here.  At the column of a block collection only a
key can. -/
def noteKeyStart? (lexer : Lexer) : Option Lexer :=
  if lexer.keyAllowed then
    lexer.dropKeyStart?.map fun lexer =>
      let required := !lexer.inFlow && lexer.columns.head? == some lexer.cursor.column
      { lexer with keyStart := some ⟨lexer.tokens.size, lexer.cursor, required⟩ }
  else some lexer

/-- Skip blanks, comments and line ends, at most `limit` lines of them.  A byte
order mark may begin a line.  A line end outside flow collections lets a key begin.
Tabs are skipped where no key may begin. -/
def skipToToken (lexer : Lexer) : (limit : Nat) → Lexer
  | 0 => lexer
  | limit + 1 =>
      let tabs := lexer.inFlow || !lexer.keyAllowed
      let cursor := if lexer.cursor.atByteOrderMark then lexer.cursor.skip 1 else lexer.cursor
      let cursor := cursor.skipWhile fun char => char == ' ' || (tabs && char == '\t')
      let cursor :=
        if cursor.rest.head? == some '#' then cursor.skipWhile (!isBreak ·) else cursor
      if cursor.atBreak then
        skipToToken
          { lexer with cursor := cursor.nextLine, keyAllowed := !lexer.inFlow || lexer.keyAllowed }
          limit
      else { lexer with cursor }

/-! ### Tokens -/

/-- A directive. -/
def readDirective? (lexer : Lexer) : Option Lexer := do
  let lexer ← (lexer.closeTo fun _ => true).dropKeyStart?
  let (token, after) ← directive? (lexer.cursor.skip 1)
  some ((lexer.emit token after).allowKey false)

/-- The mark of a document's start or end. -/
def readDocumentMark? (lexer : Lexer) : Option Lexer := do
  let lexer ← (lexer.closeTo fun _ => true).dropKeyStart?
  let token := if lexer.cursor.rest.head? = some '-' then Token.documentStart else .documentEnd
  some ((lexer.emit token (lexer.cursor.skip 3)).allowKey false)

/-- The start of a flow collection, which may be a key itself. -/
def openFlow? (lexer : Lexer) (token : Token) : Option Lexer := do
  let lexer ← lexer.noteKeyStart?
  let inner :=
    { lexer with keyStart := none, outerKeyStarts := lexer.keyStart :: lexer.outerKeyStarts }
  some ((inner.emit token (lexer.cursor.skip 1)).allowKey true)

/-- The end of a flow collection. -/
def closeFlow? (lexer : Lexer) (token : Token) : Option Lexer := do
  let lexer ← lexer.dropKeyStart?
  let outer :=
    match lexer.outerKeyStarts with
    | [] => lexer
    | keyStart :: rest => { lexer with keyStart, outerKeyStarts := rest }
  some ((outer.emit token (lexer.cursor.skip 1)).allowKey false)

/-- A comma in a flow collection. -/
def readFlowEntry? (lexer : Lexer) : Option Lexer := do
  let lexer ← lexer.dropKeyStart?
  some ((lexer.emit .flowEntry (lexer.cursor.skip 1)).allowKey true)

/-- Open a block collection at the place reached, where a key would have to be
allowed. -/
def openBlockHere? (lexer : Lexer) (token : Token) : Option Lexer :=
  if lexer.inFlow then some lexer
  else if !lexer.keyAllowed then none
  else some (lexer.openBlock lexer.cursor.column lexer.tokens.size token)

/-- A dash. -/
def readBlockEntry? (lexer : Lexer) : Option Lexer := do
  let lexer ← lexer.openBlockHere? .blockSequenceStart
  let lexer ← lexer.dropKeyStart?
  some ((lexer.emit .blockEntry (lexer.cursor.skip 1)).allowKey true)

/-- A question mark. -/
def readKey? (lexer : Lexer) : Option Lexer := do
  let allowed := !lexer.inFlow
  let lexer ← lexer.openBlockHere? .blockMappingStart
  let lexer ← lexer.dropKeyStart?
  some ((lexer.emit .key (lexer.cursor.skip 1)).allowKey allowed)

/-- A colon.  If a key may have begun on this line, it did. -/
def readValue? (lexer : Lexer) : Option Lexer := do
  let after := lexer.cursor.skip 1
  match lexer.keyStart with
  | some key =>
      let keyed :=
        { lexer with
          keyStart := none
          tokens := lexer.tokens.insertIdxIfInBounds key.token .key }
      let opened := keyed.openBlock key.cursor.column key.token .blockMappingStart
      some ((opened.emit .value after).allowKey false)
  | none =>
      let allowed := !lexer.inFlow
      let lexer ← lexer.openBlockHere? .blockMappingStart
      some ((lexer.emit .value after).allowKey allowed)

/-- A token that may be the start of a key. -/
def readKeyPart? (lexer : Lexer) (read? : Cursor → Option (Token × Cursor)) : Option Lexer := do
  let lexer ← lexer.noteKeyStart?
  let (token, after) ← read? lexer.cursor
  some ((lexer.emit token after).allowKey false)

/-- A scalar in quotes. -/
def readQuoted? (lexer : Lexer) (double : Bool) : Option Lexer :=
  lexer.readKeyPart? fun cursor =>
    (quotedScalar? double cursor.size (cursor.skip 1) .empty).map fun (after, gathered) =>
      (.scalar gathered.result false, after)

/-- A plain scalar.  A key may begin after the line ends that follow it. -/
def readPlain? (lexer : Lexer) : Option Lexer := do
  let lexer ← lexer.noteKeyStart?
  let indent := lexer.columns.head?.elim 0 (· + 1)
  let (after, gathered) ←
    plainScalar? lexer.inFlow indent lexer.cursor.size lexer.cursor .empty
  some ((lexer.emit (.scalar gathered.result true) after).allowKey gathered.spansLines)

/-- A block scalar. -/
def readBlockScalar? (lexer : Lexer) (literal : Bool) : Option Lexer := do
  let lexer ← lexer.dropKeyStart?
  let (after, text) ← blockScalar? literal lexer.columns.head? (lexer.cursor.skip 1)
  some ((lexer.emit (.scalar text false) after).allowKey true)

/-- Whether a plain scalar begins here. -/
def startsPlain (inFlow : Bool) : List Char → Bool
  | [] => false
  | first :: rest =>
      (!isGap first && !"-?:,[]\x7b\x7d#&*!|>'\"%@\x60".contains first) ||
        (first == '-' && !rest.head?.any isBlank) ||
        (!inFlow && (first == '?' || first == ':') && !startsWithGap rest)

/-- The token at the place reached, which is not the end of the text. -/
def readToken? (lexer : Lexer) : Option Lexer :=
  let text := lexer.cursor.rest
  let separate := startsWithGap (text.drop 1)
  let loose := lexer.inFlow || separate
  if lexer.cursor.column == 0 && text.head? == some '%' then lexer.readDirective?
  else if lexer.cursor.atDocumentMark then lexer.readDocumentMark?
  else
    match text.head?, separate, loose, lexer.inFlow with
    | some '[', _, _, _ => lexer.openFlow? .flowSequenceStart
    | some '\x7b', _, _, _ => lexer.openFlow? .flowMappingStart
    | some ']', _, _, _ => lexer.closeFlow? .flowSequenceEnd
    | some '\x7d', _, _, _ => lexer.closeFlow? .flowMappingEnd
    | some ',', _, _, _ => lexer.readFlowEntry?
    | some '-', true, _, _ => lexer.readBlockEntry?
    | some '?', _, true, _ => lexer.readKey?
    | some ':', _, true, _ => lexer.readValue?
    | some '*', _, _, _ => lexer.readKeyPart? fun cursor =>
        (anchorName? (cursor.skip 1)).map fun (name, after) => (.alias name, after)
    | some '&', _, _, _ => lexer.readKeyPart? fun cursor =>
        (anchorName? (cursor.skip 1)).map fun (name, after) => (.anchor name, after)
    | some '!', _, _, _ => lexer.readKeyPart? (tag? lexer.inFlow)
    | some '|', _, _, false => lexer.readBlockScalar? true
    | some '>', _, _, false => lexer.readBlockScalar? false
    | some '\'', _, _, _ => lexer.readQuoted? false
    | some '"', _, _, _ => lexer.readQuoted? true
    | _, _, _, _ => if startsPlain lexer.inFlow text then lexer.readPlain? else none

/-- The tokens of the rest of a text, in at most `limit` steps. -/
def run? : (limit : Nat) → Lexer → Option (Array Token)
  | 0, _ => none
  | limit + 1, lexer => do
      let lexer ← (lexer.skipToToken (lexer.cursor.size + 1)).dropOutgrownKeyStart?
      if lexer.cursor.rest.isEmpty then
        ((lexer.closeTo fun _ => true).dropKeyStart?).map (·.tokens)
      else
        let column := lexer.cursor.column
        run? limit (← (lexer.closeTo (column < ·)).readToken?)

end Lexer

/-- The tokens of a text. -/
def tokens? (text : String) : Option (Array Token) :=
  let chars := text.toList
  if chars.all isAllowed then (Lexer.start chars).run? (chars.length + 1) else none

end Blueprint.Yaml
