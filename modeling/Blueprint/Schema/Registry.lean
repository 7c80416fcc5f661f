import Blueprint.Schema.Directive

/-!
# Registries

A registry holds the definitions in force, starting from a base vocabulary that
directives extend.  A batch of directives is applied as a whole or not at all.
Once a registry is frozen it no longer changes.

The fields that directives add are remembered per definition as long as the
definition declares them: they are the contributions of profiles to a document.
-/

namespace Blueprint

/-- Why a schema cannot be extended or used. -/
inductive ExtensionError where
  /-- A directive targets a definition that is not registered. -/
  | unknownTarget (target : String)
  /-- A directive adds a field under a key that is taken. -/
  | duplicateFieldKey (target key : String)
  /-- A directive adds a field to a definition that has none. -/
  | notComposite (target : String)
  /-- A directive supplies a definition whose name another one has. -/
  | definitionConflict (name : String)
  /-- Two base definitions have one name. -/
  | duplicateDefinition (name : String)
  /-- The root definition is not among the base definitions. -/
  | missingRoot (name : String)
  /-- A definition refers to a name that is not registered. -/
  | unresolvedReference (definition reference : String)
  /-- Definitions refer to one another in a circle, listed from a name to its
  return. -/
  | cycle (path : List String)
  /-- A validator cannot be used. -/
  | invalidValidator (definition : String) (defect : Validator.Defect)
  /-- The registry no longer changes. -/
  | frozen
deriving DecidableEq

namespace ExtensionError

/-- A circle of names as text. -/
def cycleText (path : List String) : String :=
  " -> ".intercalate path

/-- The text of an error. -/
def message : ExtensionError → String
  | .unknownTarget target => "unknown extension target: " ++ target
  | .duplicateFieldKey target key =>
      "duplicate field key '" ++ key ++ "' on definition '" ++ target ++ "'"
  | .notComposite target => "definition '" ++ target ++ "' is not composite"
  | .definitionConflict name => "conflicting definition for '" ++ name ++ "'"
  | .duplicateDefinition name => "duplicate definition in base schema: " ++ name
  | .missingRoot name => "root definition '" ++ name ++ "' is not registered"
  | .unresolvedReference definition reference =>
      "definition '" ++ definition ++ "' refers to unknown definition '" ++ reference ++ "'"
  | .cycle path => "definition cycle detected at path: " ++ cycleText path
  | .invalidValidator definition defect =>
      "invalid validator on '" ++ definition ++ "': " ++ defect.message
  | .frozen => "registry is frozen"

end ExtensionError

/-- The definitions in force. -/
structure Registry where
  /-- The definitions under their names. -/
  definitions : Dict Definition
  /-- The name of the definition of whole documents. -/
  root : String
  /-- The keys of the fields that directives added, by definition. -/
  contributed : Dict NameSet
  /-- The patterns of validators, prepared when the registry is frozen. -/
  patterns : Dict Pattern
  /-- The host placement step that follows emission. -/
  placement : Option HostPlacement
  /-- Whether the registry no longer changes. -/
  frozen : Bool

namespace Registry

/-- The definition of a name. -/
def definition? (registry : Registry) (name : String) : Option Definition :=
  registry.definitions.get? name

/-- The definition of whole documents. -/
def root? (registry : Registry) : Option Definition :=
  registry.definition? registry.root

/-- The keys of the fields that directives added to a definition, ascending. -/
def contributedFields (registry : Registry) (target : String) : List String :=
  match registry.contributed.get? target with
  | none => []
  | some keys => keys.keys

/-- The prepared pattern of a source text. -/
def pattern? (registry : Registry) (source : String) : Option Pattern :=
  registry.patterns.get? source

/-- Put base definitions under their names, none of which may occur twice. -/
def seed (definitions : Dict Definition) : List Definition → Except ExtensionError (Dict Definition)
  | [] => .ok definitions
  | definition :: rest =>
      if definitions.contains definition.name then .error (.duplicateDefinition definition.name)
      else seed (definitions.insert definition.name definition) rest

/-- A registry of base definitions. -/
def register (root : String) (base : List Definition) : Except ExtensionError Registry :=
  match seed ∅ base with
  | .error cause => .error cause
  | .ok definitions =>
      if definitions.contains root then .ok ⟨definitions, root, ∅, ∅, none, false⟩
      else .error (.missingRoot root)

/-- Add a definition that a directive supplies.  One that is there already must
agree with it. -/
def install (registry : Registry) (definition : Definition) : Except ExtensionError Registry :=
  match registry.definitions.get? definition.name with
  | some existing =>
      if existing.agrees definition then .ok registry
      else .error (.definitionConflict definition.name)
  | none =>
      .ok { registry with
        definitions := registry.definitions.insert definition.name definition }

/-- Add several definitions in order. -/
def installAll (registry : Registry) : List Definition → Except ExtensionError Registry
  | [] => .ok registry
  | definition :: rest =>
      match registry.install definition with
      | .error cause => .error cause
      | .ok registry => registry.installAll rest

/-- Change the definition of a name, if there is one. -/
def modify (registry : Registry) (name : String) (change : Definition → Definition) : Registry :=
  match registry.definitions.get? name with
  | none => registry
  | some definition =>
      { registry with definitions := registry.definitions.insert name (change definition) }

/-- Forget the contributions to a definition that it does not declare. -/
def prune (registry : Registry) (target : String) (definition : Definition) : Registry :=
  match registry.contributed.get? target with
  | none => registry
  | some keys =>
      let declared := fun key =>
        match definition.fields? with
        | none => false
        | some fields => fields.contains key
      { registry with contributed := registry.contributed.insert target (keys.filterKeys declared) }

/-- Remember a contribution to a definition. -/
def contribute (registry : Registry) (target key : String) : Registry :=
  let keys := (registry.contributed.get? target).getD ∅
  { registry with contributed := registry.contributed.insert target (NameSet.add keys key) }

/-- Put a definition in place of another one, under the other one's name. -/
def replace (registry : Registry) (target : String) (definition : Definition)
    (supporting : List Definition) : Except ExtensionError Registry :=
  match registry.installAll supporting with
  | .error cause => .error cause
  | .ok registry =>
      let replacement := { definition with name := target }
      let registry := registry.prune target replacement
      .ok { registry with definitions := registry.definitions.insert target replacement }

/-- Add a field to a composite, given the definition that stands under its name. -/
def addField (registry : Registry) (existing : Definition) (target key : String)
    (definition : Definition) (required : Bool) (supporting : List Definition) :
    Except ExtensionError Registry :=
  match existing.fields? with
  | none => .error (.notComposite target)
  | some fields =>
      if fields.contains key then .error (.duplicateFieldKey target key)
      else
        match registry.installAll (supporting ++ [definition]) with
        | .error cause => .error cause
        | .ok registry =>
            let field : Field := ⟨definition.name, required, none⟩
            let registry := registry.modify target fun composite => composite.withField key field
            .ok (registry.contribute target key)

/-- Apply one directive. -/
def applyOne (registry : Registry) (directive : Directive) : Except ExtensionError Registry :=
  match registry.definitions.get? directive.target with
  | none => .error (.unknownTarget directive.target)
  | some existing =>
      match directive with
      | .replace target definition supporting => registry.replace target definition supporting
      | .addToSchema target key definition required supporting =>
          registry.addField existing target key definition required supporting
      | .addBehavior target validators =>
          .ok <| registry.modify target fun definition =>
            { definition with validators := definition.validators ++ validators }

/-- Apply directives in order, whether the registry is frozen or not. -/
def applyAll (registry : Registry) : List Directive → Except ExtensionError Registry
  | [] => .ok registry
  | directive :: rest =>
      match registry.applyOne directive with
      | .error cause => .error cause
      | .ok registry => registry.applyAll rest

/-- Apply a batch of directives.  The first failure is the answer, and then
nothing has changed. -/
def apply (registry : Registry) (directives : List Directive) : Except ExtensionError Registry :=
  if registry.frozen then .error .frozen else registry.applyAll directives

/-- Install the host placement step. -/
def setPlacement (registry : Registry) (placement : HostPlacement) :
    Except ExtensionError Registry :=
  if registry.frozen then .error .frozen else .ok { registry with placement := some placement }

/-- Equality of registries, with defaults compared by content and prepared
patterns by their source. -/
def agrees (left right : Registry) : Bool :=
  let definitionsAgree : Entries Definition → Entries Definition → Bool := fun lefts rights =>
    lefts.length == rights.length &&
      (lefts.zip rights).all fun pair => pair.1.1 == pair.2.1 && pair.1.2.agrees pair.2.2
  definitionsAgree left.definitions.entries right.definitions.entries &&
    left.root == right.root &&
    left.contributed == right.contributed &&
    left.patterns.keys == right.patterns.keys &&
    left.placement == right.placement &&
    left.frozen == right.frozen

end Registry

end Blueprint
