import Blueprint.Decimal.Binary64
import Blueprint.Entries
import Blueprint.Tree
import Blueprint.Yaml.Node

/-!
# Reading YAML

The tree of a document.  The text of a plain scalar without a tag decides
whether it is null, a boolean, a number or a string; other scalars are strings
unless a core tag asks for one of these kinds.  Keys are the texts of scalars, and
of several entries with one key the last wins.

Collections nest at most 128 deep, and aliases are followed at most 100 times as
often as the document is large.
-/

namespace Blueprint.Yaml

/-! ## Scalars -/

/-- The number of some digits in a base; none without digits. -/
def natural? (base : Nat) (digits : List Char) : Option Nat :=
  if digits.isEmpty then none
  else
    (digits.mapM fun digit => (hexDigit? digit).filter (· < base)).map fun values =>
      values.foldl (fun number value => base * number + value) 0

/-- The number of a text without a sign, in base 16, 8, 2 or 10. -/
def magnitude? : List Char → Option Nat
  | '0' :: 'x' :: digits => natural? 16 digits
  | '0' :: 'o' :: digits => natural? 8 digits
  | '0' :: 'b' :: digits => natural? 2 digits
  | digits => natural? 10 digits

/-- What a text says as an integer. -/
inductive Whole where
  /-- It is an integer of at most 64 bits. -/
  | fits (value : Int)
  /-- It is an integer of more than 64 and at most 128 bits. -/
  | tooWide
  /-- It is no such integer. -/
  | other

/-- Whether a text consists of digits of which the first is a needless zero. -/
def hasLeadingZero (text : List Char) : Bool :=
  let digits :=
    match text with
    | '-' :: rest | '+' :: rest => rest
    | _ => text
  match digits with
  | '0' :: rest => !rest.isEmpty && rest.all Char.isDigit
  | _ => false

/-- Read an integer. -/
def whole (text : List Char) : Whole :=
  if hasLeadingZero text then .other
  else
    match text with
    | '-' :: rest =>
        match magnitude? rest with
        | none => .other
        | some size =>
            if size ≤ Nat.pow 2 63 then .fits (-size)
            else if size ≤ Nat.pow 2 127 then .tooWide
            else .other
    | _ =>
        match magnitude? (if text.head? = some '+' then text.drop 1 else text) with
        | none => .other
        | some size =>
            if size < UInt64.size then .fits size
            else if size < Nat.pow 2 128 then .tooWide
            else .other

/-- The exponent that ends a decimal. -/
def decimalExponent? : List Char → Option Int
  | [] => some 0
  | mark :: rest =>
      if mark == 'e' || mark == 'E' then
        match rest with
        | '-' :: digits => (natural? 10 digits).map fun size => -(size : Int)
        | '+' :: digits => (natural? 10 digits).map fun size => (size : Int)
        | digits => (natural? 10 digits).map fun size => (size : Int)
      else none

/-- Read a finite decimal: digits with an optional point among or beside them and
an optional exponent. -/
def decimal? (text : List Char) : Option Binary64 :=
  let negative := text.head? = some '-'
  let unsigned := if negative || text.head? = some '+' then text.drop 1 else text
  let before := unsigned.takeWhile Char.isDigit
  let rest := unsigned.dropWhile Char.isDigit
  let (after, rest) :=
    match rest with
    | '.' :: fraction => (fraction.takeWhile Char.isDigit, fraction.dropWhile Char.isDigit)
    | _ => ([], rest)
  match natural? 10 (before ++ after), decimalExponent? rest with
  | some digits, some exponent => Binary64.ofDecimal? negative digits (exponent - after.length)
  | _, _ => none

/-- Read a float as a tree.  Those that are not finite are null. -/
def float? (text : String) : Option Tree :=
  if [".inf", ".Inf", ".INF", "+.inf", "+.Inf", "+.INF", "-.inf", "-.Inf", "-.INF",
      ".nan", ".NaN", ".NAN"].contains text then some .null
  else (decimal? text.toList).map fun value => .number (.float value)

/-- The spellings of null. -/
def isNullWord (text : String) : Bool :=
  ["null", "Null", "NULL", "~"].contains text

/-- Read a boolean. -/
def bool? (text : String) : Option Bool :=
  if ["true", "True", "TRUE"].contains text then some true
  else if ["false", "False", "FALSE"].contains text then some false
  else none

/-- The tree of a plain scalar.  Integers that are too wide have none. -/
def plainTree? (text : String) : Option Tree :=
  if text.isEmpty || isNullWord text then some .null
  else
    match bool? text with
    | some value => some (.bool value)
    | none =>
        match whole text.toList with
        | .fits value => some (.int value)
        | .tooWide => none
        | .other =>
            let float := if hasLeadingZero text.toList then none else float? text
            some (float.getD (.string text))

/-- The tree of a scalar.  A tag of the document's own has no meaning here, unless
its name is no text: then it does not count. -/
def scalarTree? (tag : Option Tag) (text : String) (plain : Bool) : Option Tree :=
  match tag with
  | none => if plain then plainTree? text else some (.string text)
  | some tag =>
      match tag.text?.getD "" with
      | "tag:yaml.org,2002:null" => if isNullWord text then some .null else none
      | "tag:yaml.org,2002:bool" => (bool? text).map Tree.bool
      | "tag:yaml.org,2002:float" => float? text
      | "tag:yaml.org,2002:int" =>
          match whole text.toList with
          | .fits value => some (.int value)
          | _ => none
      | _ =>
          if tag.isLocal then none
          else if plain && tag.hasLocalMark then plainTree? text
          else some (.string text)

/-! ## Trees -/

namespace Node

/-- The node that a node stands for in a document. -/
def target? (document : Node) : Node → Option Node
  | .alias anchor => document.anchored? anchor
  | node => some node

/-- The text of a scalar. -/
def text? : Node → Option String
  | .scalar _ text _ => some text
  | _ => none

/-- Count an alias that is followed. -/
def countAlias : Node → StateT Nat Option Unit
  | .alias _ => do
      let left ← get
      if left = 0 then failure else set (left - 1)
  | _ => return ()

/-- Follow a node, counting down the aliases that may still be followed. -/
def follow (document node : Node) : StateT Nat Option Node := do
  node.countAlias
  StateT.lift (document.target? node)

/-- The deepest nesting of collections. -/
def depthLimit : Nat := 128

/-- The tree of a node of a document, whose collections may nest `depth` deep. -/
def tree (document : Node) : (depth : Nat) → Node → StateT Nat Option Tree
  | 0, node => do
      match ← document.follow node with
      | .scalar own text plain => StateT.lift (scalarTree? own.tag text plain)
      | _ => failure
  | depth + 1, node => do
      match ← document.follow node with
      | .alias _ => failure
      | .scalar own text plain => StateT.lift (scalarTree? own.tag text plain)
      | .sequence own items =>
          if own.tag.any Tag.isLocal then failure
          else return .sequence (← items.mapM (tree document depth))
      | .mapping own entries =>
          if own.tag.any Tag.isLocal then failure
          else
            let read ← entries.mapM fun (key, value) => do
              let name ← StateT.lift (← document.follow key).text?
              return (name, ← tree document depth value)
            return .mapping (Entries.insertAll [] read)

/-- The tree of a document. -/
def toTree? (document : Node) : Option Tree :=
  (tree document depthLimit document).run' (100 * document.size)

end Node

/-- The tree of a text with at most one document. -/
def read? (text : String) : Option Tree :=
  (Node.ofText? text).bind fun document =>
    match document with
    | none => some .null
    | some document => document.toTree?

end Blueprint.Yaml
