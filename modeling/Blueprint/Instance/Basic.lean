import Blueprint.Tree

/-!
# Instances

The typed form of a document: a tree whose nodes know their definition, their
name in the parent and their path from the root.  A node owns its children; what
encloses a node is not stored in it.
-/

namespace Blueprint

/-- The way from the root of a document to a part of it: field keys, map keys and
list indices, outermost first. -/
structure Path where
  /-- The steps. -/
  segments : List String
deriving DecidableEq

namespace Path

/-- The path of the root. -/
def root : Path :=
  ⟨[]⟩

/-- One step further. -/
def child (path : Path) (segment : String) : Path :=
  ⟨path.segments ++ [segment]⟩

/-- Whether a path leads nowhere. -/
def isRoot (path : Path) : Bool :=
  path.segments.isEmpty

/-- The steps joined by dots. -/
def text (path : Path) : String :=
  if path.isRoot then "<root>" else ".".intercalate path.segments

end Path

/-- What every node knows of itself. -/
structure Header where
  /-- The definition against which the node was built. -/
  definition : String
  /-- The field key, map key or list index of the node in its parent. -/
  name : String
  /-- Where the node is. -/
  path : Path
deriving DecidableEq

/-- A node with its children. -/
inductive Instance where
  /-- A leaf with its raw value. -/
  | leaf (header : Header) (raw : Tree)
  /-- A composite with the fields that are given or have a default. -/
  | fields (header : Header) (children : List (String × Instance))
  /-- A list. -/
  | items (header : Header) (children : List Instance)
  /-- A map. -/
  | entries (header : Header) (children : List (String × Instance))

namespace Instance

/-- What a node knows of itself. -/
def header : Instance → Header
  | .leaf header _ => header
  | .fields header _ => header
  | .items header _ => header
  | .entries header _ => header

/-- The definition of a node. -/
def definition (node : Instance) : String :=
  node.header.definition

/-- The name of a node in its parent. -/
def name (node : Instance) : String :=
  node.header.name

/-- Where a node is. -/
def path (node : Instance) : Path :=
  node.header.path

/-- The raw value of a leaf. -/
def raw? : Instance → Option Tree
  | .leaf _ raw => some raw
  | _ => none

/-- The child of a composite or map under a key. -/
def child? (node : Instance) (key : String) : Option Instance :=
  match node with
  | .fields _ children => Entries.get? children key
  | .entries _ children => Entries.get? children key
  | _ => none

/-- The children of a node in order. -/
def children : Instance → List Instance
  | .leaf _ _ => []
  | .fields _ children => Entries.values children
  | .items _ children => children
  | .entries _ children => Entries.values children

/-- The entry names of a map. -/
def entryNames : Instance → List String
  | .entries _ children => Entries.keys children
  | _ => []

mutual

/-- The value of a node: the raw value of a leaf, and of other nodes the values of
their children. -/
def value : Instance → Tree
  | .leaf _ raw => raw
  | .fields _ children => .mapping (valueEntries children)
  | .items _ children => .sequence (valueAll children)
  | .entries _ children => .mapping (valueEntries children)

/-- The values of some nodes. -/
def valueAll : List Instance → List Tree
  | [] => []
  | node :: rest => value node :: valueAll rest

/-- The values of some named nodes. -/
def valueEntries : List (String × Instance) → List (String × Tree)
  | [] => []
  | (key, node) :: rest => (key, value node) :: valueEntries rest

end

/-- A composite without some of its fields. -/
def withoutFields (node : Instance) (keys : List String) : Instance :=
  match node with
  | .fields header children => .fields header (Entries.filterKeys children (!keys.contains ·))
  | other => other

end Instance

end Blueprint
