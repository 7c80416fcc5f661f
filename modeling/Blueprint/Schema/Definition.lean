import Blueprint.Dict
import Blueprint.Schema.Validator
import Blueprint.Tree

/-!
# Definitions

A definition names a kind of element: a leaf of a primitive type, a composite
with declared fields, or a list or map whose members share a definition.
Definitions refer to one another by name, so replacing the definition under a
name changes it for everyone who refers to it.
-/

namespace Blueprint

/-- The primitive types of leaves. -/
inductive LeafType where
  | string
  | integer
  | number
  | boolean
  | any
deriving DecidableEq

namespace LeafType

/-- Whether a tree is of a type.  Floats are numbers but no integers, whatever
their value. -/
def accepts : LeafType → Tree → Bool
  | .string, .string _ => true
  | .integer, .number (.int _) => true
  | .number, .number _ => true
  | .boolean, .bool _ => true
  | .any, _ => true
  | _, _ => false

/-- The name of a type. -/
def name : LeafType → String
  | .string => "string"
  | .integer => "integer"
  | .number => "number"
  | .boolean => "boolean"
  | .any => "any"

/-- All types, in the order of their numbers. -/
def all : List LeafType :=
  [.string, .integer, .number, .boolean, .any]

end LeafType

/-- A field of a composite. -/
structure Field where
  /-- The definition of its value. -/
  definition : String
  /-- Whether the field must be given. -/
  required : Bool
  /-- The value that stands in for one that is not given. -/
  default : Option Tree

namespace Field

/-- A field that may be left out. -/
def optional (definition : String) : Field :=
  ⟨definition, false, none⟩

/-- A field that must be given. -/
def needed (definition : String) : Field :=
  ⟨definition, true, none⟩

/-- The same field with a default. -/
def withDefault (field : Field) (value : Tree) : Field :=
  { field with default := some value }

/-- Equality of fields, with defaults compared by content. -/
def agrees (left right : Field) : Bool :=
  left.definition == right.definition && left.required == right.required &&
    match left.default, right.default with
    | none, none => true
    | some left, some right => left.agrees right
    | _, _ => false

end Field

/-- The shape of an element. -/
inductive Kind where
  /-- A single value of a primitive type. -/
  | leaf (type : LeafType)
  /-- A mapping with declared fields. -/
  | composite (fields : Dict Field)
  /-- A sequence of items of one definition. -/
  | list (item : String)
  /-- A mapping from names of the author's choice to items of one definition. -/
  | map (item : String)

namespace Kind

/-- The name of a shape. -/
def label : Kind → String
  | .leaf _ => "leaf"
  | .composite _ => "composite"
  | .list _ => "list"
  | .map _ => "map"

/-- The definitions that a shape refers to, field by field in key order. -/
def references : Kind → List String
  | .leaf _ => []
  | .composite fields => fields.values.map Field.definition
  | .list item => [item]
  | .map item => [item]

/-- The declared fields of a composite. -/
def fields? : Kind → Option (Dict Field)
  | .composite fields => some fields
  | _ => none

/-- Equality of listed fields, with defaults compared by content. -/
def fieldsAgree : Entries Field → Entries Field → Bool
  | [], [] => true
  | (leftKey, left) :: lefts, (rightKey, right) :: rights =>
      leftKey == rightKey && left.agrees right && fieldsAgree lefts rights
  | _, _ => false

/-- Equality of shapes, with defaults compared by content. -/
def agrees : Kind → Kind → Bool
  | .leaf left, .leaf right => left == right
  | .composite left, .composite right => fieldsAgree left.entries right.entries
  | .list left, .list right => left == right
  | .map left, .map right => left == right
  | _, _ => false

end Kind

/-- A named kind of element with its rules. -/
structure Definition where
  /-- The name under which others refer to it. -/
  name : String
  /-- Its shape. -/
  kind : Kind
  /-- The rules for its instances, in the order in which they are checked. -/
  validators : List Validator

namespace Definition

/-- A leaf without rules. -/
def leaf (name : String) (type : LeafType) : Definition :=
  ⟨name, .leaf type, []⟩

/-- A composite without fields and rules. -/
def composite (name : String) : Definition :=
  ⟨name, .composite ∅, []⟩

/-- A list without rules. -/
def list (name item : String) : Definition :=
  ⟨name, .list item, []⟩

/-- A map without rules. -/
def map (name item : String) : Definition :=
  ⟨name, .map item, []⟩

/-- The declared fields of a composite. -/
def fields? (definition : Definition) : Option (Dict Field) :=
  definition.kind.fields?

/-- The fields of a composite that have a default. -/
def defaults (definition : Definition) : List Field :=
  match definition.fields? with
  | none => []
  | some fields => fields.values.filter fun field => field.default.isSome

/-- Whether a definition is a composite. -/
def isComposite (definition : Definition) : Bool :=
  definition.fields?.isSome

/-- Declare a field of a composite, in place of one under the same key.  Other
kinds stay as they are. -/
def withField (definition : Definition) (key : String) (field : Field) : Definition :=
  match definition.kind with
  | .composite fields => { definition with kind := .composite (fields.insert key field) }
  | _ => definition

/-- Declare a field that must be given. -/
def withNeeded (definition : Definition) (key target : String) : Definition :=
  definition.withField key (Field.needed target)

/-- Declare a field that may be left out. -/
def withOptional (definition : Definition) (key target : String) : Definition :=
  definition.withField key (Field.optional target)

/-- Append a rule. -/
def withValidator (definition : Definition) (validator : Validator) : Definition :=
  { definition with validators := definition.validators ++ [validator] }

/-- The keys of the fields that must be given, ascending. -/
def requiredFields (definition : Definition) : List String :=
  match definition.fields? with
  | none => []
  | some fields => (fields.entries.filter fun entry => entry.2.required).map Prod.fst

/-- Equality of definitions, with defaults compared by content. -/
def agrees (left right : Definition) : Bool :=
  left.name == right.name && left.kind.agrees right.kind && left.validators == right.validators

end Definition

end Blueprint
