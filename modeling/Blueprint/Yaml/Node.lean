import Blueprint.Yaml.Lexer

/-!
# YAML nodes

The structure of a document: scalars and collections, whose meaning is still
open, with their tags, anchors and aliases.  It is read from tokens by recursive
descent, each step on fewer tokens or with less to go.

An anchor has a number, the count of different anchor names before it.  Where a
name is used again, later anchors can therefore share a number, and the number
stands for the last of them.
-/

namespace Blueprint.Yaml

/-- What a node carries beside its content. -/
structure Properties where
  /-- The number of its anchor. -/
  anchor : Option Nat
  /-- Its tag, with the handle replaced. -/
  tag : Option Tag

/-- A part of a document. -/
inductive Node where
  | alias (anchor : Nat)
  /-- A scalar, and whether it is written without quotes and block indicators. -/
  | scalar (properties : Properties) (text : String) (plain : Bool)
  | sequence (properties : Properties) (items : List Node)
  | mapping (properties : Properties) (entries : List (Node × Node))

namespace Properties

/-- No anchor and no tag. -/
def none : Properties :=
  ⟨.none, .none⟩

end Properties

namespace Node

/-- A value that is not written. -/
def absent : Node :=
  .scalar .none "" true

mutual

/-- The number of starts and ends in a node: two for a collection. -/
def size : Node → Nat
  | .alias _ | .scalar .. => 1
  | .sequence _ items => 2 + sizeAll items
  | .mapping _ entries => 2 + sizeEntries entries

/-- The sizes of some nodes together. -/
def sizeAll : List Node → Nat
  | [] => 0
  | node :: rest => size node + sizeAll rest

/-- The sizes of some entries together. -/
def sizeEntries : List (Node × Node) → Nat
  | [] => 0
  | (key, value) :: rest => size key + size value + sizeEntries rest

end

mutual

/-- The anchored node for an anchor's number: the last in the document. -/
def anchored? (number : Nat) (node : Node) : Option Node :=
  let own (properties : Properties) (inner : Option Node) : Option Node :=
    inner.or (if properties.anchor = some number then some node else none)
  match node with
  | .alias _ => none
  | .scalar properties _ _ => own properties none
  | .sequence properties items => own properties (anchoredIn? number items)
  | .mapping properties entries => own properties (anchoredInEntries? number entries)

/-- The last anchored node in a list. -/
def anchoredIn? (number : Nat) : List Node → Option Node
  | [] => none
  | node :: rest => (anchoredIn? number rest).or (anchored? number node)

/-- The last anchored node in some entries. -/
def anchoredInEntries? (number : Nat) : List (Node × Node) → Option Node
  | [] => none
  | (key, value) :: rest =>
      ((anchoredInEntries? number rest).or (anchored? number value)).or (anchored? number key)

end

/-! ## Reading nodes -/

/-- What is known while the nodes of a document are read. -/
structure Parsing where
  /-- The tokens that are left. -/
  tokens : List Token
  /-- The numbers of the anchors so far. -/
  anchors : List (String × Nat)
  /-- What the tag handles stand for. -/
  handles : List (String × List UInt8)

/-- A step in reading nodes. -/
abbrev Parser := StateT Parsing Option

/-- The next token. -/
def peek : Parser (Option Token) := do
  return (← get).tokens.head?

/-- Leave out the next token. -/
def advance : Parser Unit :=
  modify fun state => { state with tokens := state.tokens.drop 1 }

/-- Skip the next token if it is the given one. -/
def accept (token : Token) : Parser Bool := do
  if (← peek) == some token then
    advance
    return true
  else return false

/-- Give an anchor its number. -/
def bindAnchor (name : String) : Parser Nat := do
  let state ← get
  let number := state.anchors.length
  set { state with
    anchors := (name, number) :: state.anchors.filter fun anchor => anchor.1 != name }
  return number

/-- A tag with its handle replaced. -/
def resolveTag (handle : String) (suffix : List UInt8) : Parser Tag := do
  if handle.isEmpty then return ⟨suffix⟩
  else
    match (← get).handles.lookup handle with
    | some replacement => return ⟨replacement ++ suffix⟩
    | none => failure

/-- Read an anchor and a tag, each at most once, in either order. -/
def properties : Parser Properties := do
  let anchor : Parser (Option String) := do
    match ← peek with
    | some (.anchor name) =>
        advance
        return some name
    | _ => return none
  let first ← anchor
  let tag ←
    match ← peek with
    | some (.tag handle suffix) =>
        advance
        pure (some (handle, suffix))
    | _ => pure none
  let name ← if first.isNone && tag.isSome then anchor else pure first
  let tag ← tag.mapM fun (handle, suffix) => resolveTag handle suffix
  return ⟨← name.mapM bindAnchor, tag⟩

/-- Whether the next token is one of some. -/
def nextIn (tokens : List Token) : Parser Bool := do
  return (← peek).any tokens.contains

mutual

/-- Read a node.  Block collections may begin where `block` says so, and sequences
that are not indented where `flat` does. -/
def read (block flat : Bool) : (fuel : Nat) → Parser Node
  | 0 => failure
  | fuel + 1 => do
      if let some (.alias name) ← peek then
        advance
        match (← get).anchors.lookup name with
        | some number => return .alias number
        | none => failure
      else
        let own ← properties
        match ← peek with
        | some (.scalar text plain) =>
            advance
            return .scalar own text plain
        | some .flowSequenceStart =>
            advance
            return .sequence own (← readFlowItems true fuel)
        | some .flowMappingStart =>
            advance
            return .mapping own (← readFlowEntries true fuel)
        | next =>
            if flat && next == some .blockEntry then
              return .sequence own (← readFlatItems fuel)
            else if block && next == some .blockSequenceStart then
              advance
              return .sequence own (← readItems fuel)
            else if block && next == some .blockMappingStart then
              advance
              return .mapping own (← readEntries fuel)
            else if own.anchor.isSome || own.tag.isSome then return .scalar own "" true
            else failure

/-- Read a node, which is absent if one of some tokens is next. -/
def readUnless (stops : List Token) (block flat : Bool) : (fuel : Nat) → Parser Node
  | 0 => failure
  | fuel + 1 => do if ← nextIn stops then return absent else read block flat fuel

/-- Read the items of a block sequence with its end. -/
def readItems : (fuel : Nat) → Parser (List Node)
  | 0 => failure
  | fuel + 1 => do
      if ← accept .blockEntry then
        let item ← readUnless [.blockEntry, .blockEnd] true false fuel
        return item :: (← readItems fuel)
      else if ← accept .blockEnd then return []
      else failure

/-- Read the items of a block sequence that is not indented. -/
def readFlatItems : (fuel : Nat) → Parser (List Node)
  | 0 => failure
  | fuel + 1 => do
      if ← accept .blockEntry then
        let item ← readUnless [.blockEntry, .key, .value, .blockEnd] true false fuel
        return item :: (← readFlatItems fuel)
      else return []

/-- Read the entries of a block mapping with its end. -/
def readEntries : (fuel : Nat) → Parser (List (Node × Node))
  | 0 => failure
  | fuel + 1 => do
      let stops := [.key, .value, .blockEnd]
      if ← accept .key then
        let key ← readUnless stops true true fuel
        let value ← if ← accept .value then readUnless stops true true fuel else pure absent
        return (key, value) :: (← readEntries fuel)
      else if ← accept .blockEnd then return []
      else failure

/-- Read the items of a flow sequence with its end.  An item may be an entry, which
is then a mapping of its own. -/
def readFlowItems (first : Bool) : (fuel : Nat) → Parser (List Node)
  | 0 => failure
  | fuel + 1 => do
      if ← accept .flowSequenceEnd then return []
      else
        let separated ← if first then pure true else accept .flowEntry
        if !separated then failure
        else if ← accept .flowSequenceEnd then return []
        else
          let item ← if ← accept .key then readFlowPair fuel else read false false fuel
          return item :: (← readFlowItems false fuel)

/-- Read an entry in a flow sequence after its question mark.  With no key, the
token after the question mark does not count. -/
def readFlowPair : (fuel : Nat) → Parser Node
  | 0 => failure
  | fuel + 1 => do
      let key ←
        if ← nextIn [.value, .flowEntry, .flowSequenceEnd] then
          advance
          pure absent
        else read false false fuel
      let value ←
        if ← accept .value then readUnless [.flowEntry, .flowSequenceEnd] false false fuel
        else pure absent
      return .mapping .none [(key, value)]

/-- Read the entries of a flow mapping with its end. -/
def readFlowEntries (first : Bool) : (fuel : Nat) → Parser (List (Node × Node))
  | 0 => failure
  | fuel + 1 => do
      if ← accept .flowMappingEnd then return []
      else
        let separated ← if first then pure true else accept .flowEntry
        if !separated then failure
        else if ← accept .flowMappingEnd then return []
        else
          let entry ←
            if ← accept .key then
              let key ← readUnless [.value, .flowEntry, .flowMappingEnd] false false fuel
              let value ←
                if ← accept .value then readUnless [.flowEntry, .flowMappingEnd] false false fuel
                else pure absent
              pure (key, value)
            else
              let key ← read false false fuel
              pure (key, absent)
          return entry :: (← readFlowEntries false fuel)

end

/-! ## Documents -/

/-- The directives of a document: the version at most once, and what tag handles
stand for. -/
def directives? : (tokens : List Token) → (version : Bool) → (handles : List (String × List UInt8)) →
    Option (List Token × List (String × List UInt8))
  | .versionDirective major minor :: rest, version, handles =>
      if version || major ≠ 1 || (minor ≠ 1 && minor ≠ 2) then none
      else directives? rest true handles
  | .tagDirective handle replacement :: rest, version, handles =>
      if (handles.lookup handle).isSome then none
      else directives? rest version (handles ++ [(handle, replacement)])
  | tokens, _, handles => some (tokens, handles)

/-- The tag handles that need no directive. -/
def standardHandles : List (String × List UInt8) :=
  [("!", octets "!"), ("!!", octets "tag:yaml.org,2002:")]

/-- Read the only document of a token list; none within it if there is no document. -/
def ofTokens? (tokens : List Token) : Option (Option Node) := do
  let fuel := 4 * tokens.length + 4
  let headed := tokens.head?.any Token.isDocumentHead
  if tokens.isEmpty then return none
  else
    let (tokens, handles) ← if headed then directives? tokens false [] else some (tokens, [])
    let tokens ←
      if headed then
        match tokens with
        | .documentStart :: rest => some rest
        | _ => none
      else some tokens
    let bare := headed &&
      tokens.head?.all fun token => token.isDocumentHead || token == .documentEnd
    let state : Parsing := ⟨tokens, [], handles ++ standardHandles⟩
    let (node, state) ← if bare then some (absent, state) else (read true false fuel).run state
    if state.tokens.all (· == .documentEnd) then return some node else none

/-- Read a text with at most one document. -/
def ofText? (text : String) : Option (Option Node) :=
  (tokens? text).bind fun tokens => ofTokens? tokens.toList

end Node

end Blueprint.Yaml
