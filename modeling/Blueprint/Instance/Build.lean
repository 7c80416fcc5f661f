import Blueprint.Instance.Basic
import Blueprint.Schema.Registry

/-!
# Building instances

`Instance.build` reads a raw tree against a definition of a registry and makes a
node for every declared part.  Only the shape is checked.  The first mismatch in
the order of the walk is the answer: unknown keys of a composite before its
fields, fields and entries in key order, items in list order.

A raw tree is turned into its builder by recursion on the tree, so each part is
built from its own part of the tree.  A field that is not given is built from its
default, a tree of the registry; this is the only place where the walk leaves the
document.  Such substitutions cannot nest more deeply than there are defaults in
the registry, unless one leads back to itself and the walk would never end.  That
is an error of its own, which no frozen registry gives rise to.
-/

namespace Blueprint

/-- What a definition calls for. -/
inductive Expected where
  | leaf (type : LeafType)
  | sequence
  | mapping
deriving DecidableEq

/-- The name of what is called for. -/
def Expected.name : Expected → String
  | .leaf type => type.name
  | .sequence => "sequence"
  | .mapping => "mapping"

/-- Why a document does not have the shape that a schema calls for. -/
inductive StructuralError where
  /-- A part has another shape. -/
  | unexpectedType (path : Path) (expected : Expected) (found : Shape)
  /-- A field that must be given is not. -/
  | missingField (path : Path) (field : String)
  /-- A key of a composite is not declared. -/
  | unknownField (path : Path) (field : String)
  /-- A part has a definition that is not registered. -/
  | unknownDefinition (path : Path) (definition : String)
  /-- The default of a field leads back to itself. -/
  | endlessDefault (path : Path) (definition : String)
deriving DecidableEq

namespace StructuralError

/-- Where an error is. -/
def path : StructuralError → Path
  | .unexpectedType path _ _ => path
  | .missingField path _ => path
  | .unknownField path _ => path
  | .unknownDefinition path _ => path
  | .endlessDefault path _ => path

/-- What is wrong. -/
def description : StructuralError → String
  | .unexpectedType _ expected found => "expected " ++ expected.name ++ ", found " ++ found.name
  | .missingField _ field => "missing required field '" ++ field ++ "'"
  | .unknownField _ field => "unknown field '" ++ field ++ "'"
  | .unknownDefinition _ definition => "unknown definition '" ++ definition ++ "'"
  | .endlessDefault _ definition => "endless defaults in '" ++ definition ++ "'"

/-- The text of an error. -/
def message (error : StructuralError) : String :=
  error.path.text ++ ": " ++ error.description

end StructuralError

namespace Build

/-- Builds a part of a document, given its definition, its name in the parent and
its path. -/
abbrev Builder := Definition → String → Path → Except StructuralError Instance

/-- The builders of the parts of a tree. -/
inductive Parts where
  /-- The tree has no parts. -/
  | none
  | items (builders : List Builder)
  | entries (builders : List (String × Builder))

/-- The builder of an entry. -/
def Parts.get? (parts : Parts) (key : String) : Option Builder :=
  match parts with
  | .entries builders => Entries.get? builders key
  | _ => Option.none

/-- Look a definition up for a part. -/
def lookUp (registry : Registry) (name : String) (path : Path) :
    Except StructuralError Definition :=
  match registry.definition? name with
  | some definition => .ok definition
  | none => .error (.unknownDefinition path name)

/-- Build items one after the other, from an index on. -/
def buildItems (definition : Definition) (path : Path) :
    (index : Nat) → List Builder → Except StructuralError (List Instance)
  | _, [] => .ok []
  | index, builder :: rest =>
      let name := toString index
      match builder definition name (path.child name) with
      | .error cause => .error cause
      | .ok node =>
          match buildItems definition path (index + 1) rest with
          | .error cause => .error cause
          | .ok nodes => .ok (node :: nodes)

/-- Build entries one after the other. -/
def buildEntries (definition : Definition) (path : Path) :
    List (String × Builder) → Except StructuralError (List (String × Instance))
  | [] => .ok []
  | (key, builder) :: rest =>
      match builder definition key (path.child key) with
      | .error cause => .error cause
      | .ok node =>
          match buildEntries definition path rest with
          | .error cause => .error cause
          | .ok nodes => .ok ((key, node) :: nodes)

/-- What a field is built from: the given value unless it is null, or else the
default. -/
def fieldBuilder? (substitute : Tree → Builder) (raw : Tree) (parts : Parts) (key : String)
    (field : Field) : Option Builder :=
  match raw.get? key, parts.get? key with
  | some .null, _ | none, _ | _, none => field.default.map substitute
  | some _, some builder => some builder

/-- Build the declared fields of a composite one after the other. -/
def buildFields (registry : Registry) (substitute : Tree → Builder) (raw : Tree) (parts : Parts)
    (path : Path) : List (String × Field) → Except StructuralError (List (String × Instance))
  | [] => .ok []
  | (key, field) :: rest =>
      match fieldBuilder? substitute raw parts key field with
      | none =>
          if field.required then .error (.missingField path key)
          else buildFields registry substitute raw parts path rest
      | some builder =>
          match lookUp registry field.definition (path.child key) with
          | .error cause => .error cause
          | .ok definition =>
              match builder definition key (path.child key) with
              | .error cause => .error cause
              | .ok node =>
                  match buildFields registry substitute raw parts path rest with
                  | .error cause => .error cause
                  | .ok nodes => .ok ((key, node) :: nodes)

/-- The first key of a tree that is not declared. -/
def undeclared? (raw : Tree) (fields : Dict Field) : Option String :=
  match raw with
  | .mapping entries => (Entries.keys entries).find? (!fields.contains ·)
  | _ => none

/-- Whether a tree can be read as a mapping: null counts as an empty one. -/
def isMappingLike : Tree → Bool
  | .null | .mapping _ => true
  | _ => false

/-- Build a node, given the builders of the parts of its tree. -/
def buildNode (registry : Registry) (substitute : Tree → Builder) (raw : Tree) (parts : Parts) :
    Builder := fun definition name path =>
  let header : Header := ⟨definition.name, name, path⟩
  match definition.kind with
  | .leaf type =>
      if type.accepts raw then .ok (.leaf header raw)
      else .error (.unexpectedType path (.leaf type) raw.shape)
  | .composite fields =>
      if isMappingLike raw then
        match undeclared? raw fields with
        | some key => .error (.unknownField path key)
        | none =>
            match buildFields registry substitute raw parts path fields.entries with
            | .error cause => .error cause
            | .ok children => .ok (.fields header children)
      else .error (.unexpectedType path .mapping raw.shape)
  | .list item =>
      match lookUp registry item path with
      | .error cause => .error cause
      | .ok itemDefinition =>
          match raw, parts with
          | .null, _ => .ok (.items header [])
          | .sequence _, .items builders =>
              match buildItems itemDefinition path 0 builders with
              | .error cause => .error cause
              | .ok children => .ok (.items header children)
          | _, _ => .error (.unexpectedType path .sequence raw.shape)
  | .map item =>
      match lookUp registry item path with
      | .error cause => .error cause
      | .ok itemDefinition =>
          match raw, parts with
          | .null, _ => .ok (.entries header [])
          | .mapping _, .entries builders =>
              match buildEntries itemDefinition path builders with
              | .error cause => .error cause
              | .ok children => .ok (.entries header children)
          | _, _ => .error (.unexpectedType path .mapping raw.shape)

mutual

/-- The builder of a tree, given how defaults are built. -/
def builder (registry : Registry) (substitute : Tree → Builder) : Tree → Builder
  | .sequence items =>
      buildNode registry substitute (.sequence items)
        (.items (builderAll registry substitute items))
  | .mapping entries =>
      buildNode registry substitute (.mapping entries)
        (.entries (builderEntries registry substitute entries))
  | .null => buildNode registry substitute .null .none
  | .bool value => buildNode registry substitute (.bool value) .none
  | .number value => buildNode registry substitute (.number value) .none
  | .string value => buildNode registry substitute (.string value) .none

/-- The builders of some trees. -/
def builderAll (registry : Registry) (substitute : Tree → Builder) : List Tree → List Builder
  | [] => []
  | item :: rest => builder registry substitute item :: builderAll registry substitute rest

/-- The builders of the values of some entries. -/
def builderEntries (registry : Registry) (substitute : Tree → Builder) :
    List (String × Tree) → List (String × Builder)
  | [] => []
  | (key, value) :: rest =>
      (key, builder registry substitute value) :: builderEntries registry substitute rest

end

/-- The builder of a tree within which defaults nest so deeply at most. -/
def builderWithin (registry : Registry) : (defaults : Nat) → Tree → Builder
  | 0 => builder registry fun _ definition _ path => .error (.endlessDefault path definition.name)
  | defaults + 1 => builder registry (builderWithin registry defaults)

/-- The number of defaults among some definitions. -/
def countDefaults (definitions : List Definition) : Nat :=
  (definitions.flatMap Definition.defaults).length

end Build

/-- Build a whole document against a definition. -/
def Instance.build (registry : Registry) (definition : String) (raw : Tree) :
    Except StructuralError Instance :=
  match Build.lookUp registry definition Path.root with
  | .error cause => .error cause
  | .ok found =>
      Build.builderWithin registry (Build.countDefaults registry.definitions.values) raw found "" Path.root

end Blueprint
