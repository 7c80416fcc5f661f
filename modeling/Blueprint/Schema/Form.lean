import Blueprint.Schema.Profile

/-!
# Profiles as documents

The written form of definitions, validators, directives and profiles.  A record is
a mapping of its parts; in reading, a sequence of the parts in their order serves
too.  Parts that are not known are ignored, and parts that have a default may be
left out.  A record with variants names its variant under a tag.

Inside a tagged record a variant may also be given by its number, counted from
zero.  Checks of a host have no written form.
-/

namespace Blueprint

namespace Form

/-- A mapping of the parts that are present. -/
def record (parts : List (String × Option Tree)) : Tree :=
  .mapping (Entries.insertAll [] (parts.filterMap fun part => part.2.map fun tree => (part.1, tree)))

/-- A part that is written only if it is there. -/
def given (present : Bool) (tree : Tree) : Option Tree :=
  if present then some tree else none

/-- A sequence of texts. -/
def texts (values : List String) : Tree :=
  .sequence (values.map .string)

/-- The parts of a record with some names, in their order. -/
def parts? (names : List String) : Tree → Option (Entries Tree)
  | .mapping entries => some entries
  | .sequence items => if items.length ≤ names.length then some (names.zip items) else none
  | _ => none

/-- Read a part that must be there. -/
def needed? {α : Type} (parts : Entries Tree) (name : String) (read : Tree → Option α) : Option α :=
  (parts.get? name).bind read

/-- Read a part that may be left out. -/
def optional? {α : Type} (parts : Entries Tree) (name : String) (absent : α)
    (read : Tree → Option α) : Option α :=
  match parts.get? name with
  | none => some absent
  | some tree => read tree

/-- Read a value for which null stands for none. -/
def nullable? {α : Type} (read : Tree → Option α) : Tree → Option (Option α)
  | .null => some none
  | tree => (read tree).map some

/-- Read each item of a list. -/
def readAll? {α : Type} (read : Tree → Option α) : List Tree → Option (List α)
  | [] => some []
  | item :: rest =>
      match read item, readAll? read rest with
      | some value, some others => some (value :: others)
      | _, _ => none

/-- Read a sequence. -/
def list? {α : Type} (read : Tree → Option α) : Tree → Option (List α)
  | .sequence items => readAll? read items
  | _ => none

/-- Read the value of each entry. -/
def readEntries? {α : Type} (read : Tree → Option α) : List (String × Tree) → Option (Entries α)
  | [] => some []
  | (name, tree) :: rest =>
      match read tree, readEntries? read rest with
      | some value, some others => some ((name, value) :: others)
      | _, _ => none

/-- Read a mapping of values. -/
def dict? {α : Type} (read : Tree → Option α) : Tree → Option (Dict α)
  | .mapping entries => (readEntries? read entries).map Dict.ofList
  | _ => none

/-- Read a boolean. -/
def flag? : Tree → Option Bool
  | .bool value => some value
  | _ => none

/-- Read a code, which has 32 bits. -/
def code? : Tree → Option UInt32
  | .number (.int value) =>
      if 0 ≤ value ∧ value < Int.pow 2 32 then some (UInt32.ofNat value.toNat) else none
  | _ => none

/-- The written form of a code. -/
def code (value : UInt32) : Tree :=
  .int (value.toNat : Int)

/-- A variant of a tagged record with the names of its parts. -/
abbrev Variant := String × List String

/-- Read the name or, if it may stand for it, the number of a variant. -/
def variant? (variants : List Variant) (numbered : Bool) : Tree → Option Variant
  | .string name => variants.find? fun variant => variant.1 == name
  | .number (.int (.ofNat index)) => if numbered then variants[index]? else none
  | _ => none

/-- Read the variant and the parts of a tagged record. -/
def tagged? (tag : String) (variants : List Variant) (numbered : Bool) :
    Tree → Option (String × Entries Tree)
  | .mapping entries => do
      let mark ← Entries.get? entries tag
      let variant ← variant? variants numbered mark
      some (variant.1, Entries.erase entries tag)
  | .sequence (mark :: items) => do
      let variant ← variant? variants numbered mark
      let parts ← parts? variant.2 (.sequence items)
      some (variant.1, parts)
  | _ => none

/-- The value of a name among named values. -/
def choice? {α : Type} (choices : List (String × α)) (name : String) : Option α :=
  choices.lookup name

end Form

namespace LeafType

/-- The types under their names. -/
def choices : List (String × LeafType) :=
  all.map fun type => (type.name, type)

/-- The written form of a type. -/
def toTree (type : LeafType) : Tree :=
  .string type.name

/-- Read a type: its name, or a mapping of it to nothing. -/
def ofTree? : Tree → Option LeafType
  | .string name => Form.choice? choices name
  | .mapping [(name, .null)] => Form.choice? choices name
  | .mapping [(name, .mapping [])] => Form.choice? choices name
  | _ => none

end LeafType

namespace Policy

/-- The name of a policy. -/
def name : Policy → String
  | .override => "override"
  | .mergeNoOverride => "merge_no_override"
  | .mergeUnion => "merge_union"

/-- The policies under their names. -/
def choices : List (String × Policy) :=
  [.override, .mergeNoOverride, .mergeUnion].map fun policy => (policy.name, policy)

/-- The policy of a name. -/
def ofName? (name : String) : Option Policy :=
  Form.choice? choices name

/-- The written form of a policy. -/
def toTree (policy : Policy) : Tree :=
  .string policy.name

/-- Read a policy: its name, or a mapping of it to nothing. -/
def ofTree? : Tree → Option Policy
  | .string name => ofName? name
  | .mapping [(name, .null)] => ofName? name
  | _ => none

end Policy

namespace PolicyTable

/-- The written form of a table. -/
def toTree (table : PolicyTable) : Tree :=
  Form.record
    [("default_policy", some table.defaultPolicy.toTree),
     ("policies", some (.mapping (table.policies.mapValues fun _ policy => policy.toTree).entries))]

/-- Read a table. -/
def ofTree? (tree : Tree) : Option PolicyTable := do
  let parts ← Form.parts? ["default_policy", "policies"] tree
  let defaultPolicy ← Form.optional? parts "default_policy" .override Policy.ofTree?
  let policies ← Form.optional? parts "policies" ∅ (Form.dict? Policy.ofTree?)
  some ⟨defaultPolicy, policies⟩

end PolicyTable

namespace Validator

/-- The variants of validators and their parts. -/
def variants : List Form.Variant :=
  [("allowed_values", ["values", "owner", "code"]), ("pattern", ["pattern", "code"]),
   ("non_empty", ["code"]), ("reference_to", ["section", "code"])]

/-- The written form of a validator.  A check of the host shows its label. -/
def toTree : Validator → Tree
  | .allowedValues values owner code =>
      Form.record
        [("check", some (.string "allowed_values")), ("values", some (Form.texts values)),
         ("owner", owner.map .string), ("code", some (Form.code code))]
  | .pattern source code =>
      Form.record
        [("check", some (.string "pattern")), ("pattern", some (.string source)),
         ("code", some (Form.code code))]
  | .nonEmpty code =>
      Form.record [("check", some (.string "non_empty")), ("code", some (Form.code code))]
  | .referenceTo part code =>
      Form.record
        [("check", some (.string "reference_to")), ("section", some (.string part)),
         ("code", some (Form.code code))]
  | .custom check => Form.record [("custom", some (.string check.label))]

/-- Read a validator. -/
def ofTree? (numbered : Bool) (tree : Tree) : Option Validator := do
  let (variant, parts) ← Form.tagged? "check" variants numbered tree
  match variant with
  | "allowed_values" =>
      let values ← Form.needed? parts "values" (Form.list? Tree.text?)
      let owner ← Form.optional? parts "owner" none (Form.nullable? Tree.text?)
      let code ← Form.optional? parts "code" allowedValuesCode Form.code?
      some (.allowedValues values owner code)
  | "pattern" =>
      let source ← Form.needed? parts "pattern" Tree.text?
      let code ← Form.optional? parts "code" patternCode Form.code?
      some (.pattern source code)
  | "non_empty" =>
      let code ← Form.optional? parts "code" nonEmptyCode Form.code?
      some (.nonEmpty code)
  | "reference_to" =>
      let part ← Form.needed? parts "section" Tree.text?
      let code ← Form.optional? parts "code" danglingReferenceCode Form.code?
      some (.referenceTo part code)
  | _ => none

end Validator

namespace Field

/-- The written form of a field. -/
def toTree (field : Field) : Tree :=
  Form.record
    [("definition", some (.string field.definition)),
     ("required", Form.given field.required (.bool true)), ("default", field.default)]

/-- Read a field.  A null default is no default. -/
def ofTree? (tree : Tree) : Option Field := do
  let parts ← Form.parts? ["definition", "required", "default"] tree
  let definition ← Form.needed? parts "definition" Tree.text?
  let required ← Form.optional? parts "required" false Form.flag?
  let default ← Form.optional? parts "default" none (Form.nullable? some)
  some ⟨definition, required, default⟩

end Field

namespace Kind

/-- The variants of kinds. -/
def variants : List Form.Variant :=
  [("leaf", []), ("composite", []), ("list", []), ("map", [])]

/-- The parts in which a kind is written. -/
def parts : Kind → List (String × Option Tree)
  | .leaf type => [("kind", some (.string "leaf")), ("type", some type.toTree)]
  | .composite fields =>
      [("kind", some (.string "composite")),
       ("fields", some (.mapping (fields.mapValues fun _ field => field.toTree).entries))]
  | .list item => [("kind", some (.string "list")), ("item", some (.string item))]
  | .map item => [("kind", some (.string "map")), ("item", some (.string item))]

/-- Read a kind from the parts of a definition. -/
def ofParts? (parts : Entries Tree) : Option Kind := do
  let mark ← parts.get? "kind"
  let variant ← Form.variant? variants true mark
  match variant.1 with
  | "leaf" => (Form.optional? parts "type" .string LeafType.ofTree?).map .leaf
  | "composite" => (Form.optional? parts "fields" ∅ (Form.dict? Field.ofTree?)).map .composite
  | "list" => (Form.needed? parts "item" Tree.text?).map .list
  | "map" => (Form.needed? parts "item" Tree.text?).map .map
  | _ => none

end Kind

namespace Definition

/-- The written form of a definition. -/
def toTree (definition : Definition) : Tree :=
  Form.record <|
    ("name", some (.string definition.name)) ::
    ("validators", Form.given (!definition.validators.isEmpty)
      (.sequence (definition.validators.map Validator.toTree))) ::
    definition.kind.parts

/-- Read a definition, which is always a mapping. -/
def ofTree? (numbered : Bool) : Tree → Option Definition
  | .mapping parts => do
      let name ← Form.needed? parts "name" Tree.text?
      let kind ← Kind.ofParts? parts
      let validators ←
        Form.optional? parts "validators" [] (Form.list? (Validator.ofTree? numbered))
      some ⟨name, kind, validators⟩
  | _ => none

end Definition

namespace Directive

/-- The variants of directives and their parts. -/
def variants : List Form.Variant :=
  [("replace", ["target", "definition", "supporting"]),
   ("add_to_schema", ["target", "key", "definition", "required", "supporting"]),
   ("add_behavior", ["target", "validators"])]

/-- Supporting definitions, which are written only if there are some. -/
def supportingTree (definitions : List Definition) : Option Tree :=
  Form.given (!definitions.isEmpty) (.sequence (definitions.map Definition.toTree))

/-- The written form of a directive. -/
def toTree : Directive → Tree
  | .replace target definition supporting =>
      Form.record
        [("action", some (.string "replace")), ("target", some (.string target)),
         ("definition", some definition.toTree), ("supporting", supportingTree supporting)]
  | .addToSchema target key definition required supporting =>
      Form.record
        [("action", some (.string "add_to_schema")), ("target", some (.string target)),
         ("key", some (.string key)), ("definition", some definition.toTree),
         ("required", some (.bool required)), ("supporting", supportingTree supporting)]
  | .addBehavior target validators =>
      Form.record
        [("action", some (.string "add_behavior")), ("target", some (.string target)),
         ("validators", some (.sequence (validators.map Validator.toTree)))]

/-- Read a directive. -/
def ofTree? (tree : Tree) : Option Directive := do
  let (variant, parts) ← Form.tagged? "action" variants false tree
  let target ← Form.needed? parts "target" Tree.text?
  match variant with
  | "replace" =>
      let definition ← Form.needed? parts "definition" (Definition.ofTree? true)
      let supporting ← Form.optional? parts "supporting" [] (Form.list? (Definition.ofTree? true))
      some (.replace target definition supporting)
  | "add_to_schema" =>
      let key ← Form.needed? parts "key" Tree.text?
      let definition ← Form.needed? parts "definition" (Definition.ofTree? true)
      let required ← Form.optional? parts "required" false Form.flag?
      let supporting ← Form.optional? parts "supporting" [] (Form.list? (Definition.ofTree? true))
      some (.addToSchema target key definition required supporting)
  | "add_behavior" =>
      let validators ← Form.needed? parts "validators" (Form.list? (Validator.ofTree? true))
      some (.addBehavior target validators)
  | _ => none

end Directive

namespace HostPlacement

/-- The written form of a placement step. -/
def toTree (placement : HostPlacement) : Tree :=
  Form.record
    [("host_type", some (.string placement.hostType)),
     ("contained_in", some (.string placement.containedIn)),
     ("host_executor", some (.string placement.hostExecutor))]

/-- Read a placement step. -/
def ofTree? (tree : Tree) : Option HostPlacement := do
  let parts ← Form.parts? ["host_type", "contained_in", "host_executor"] tree
  let hostType ← Form.needed? parts "host_type" Tree.text?
  let containedIn ← Form.needed? parts "contained_in" Tree.text?
  let hostExecutor ← Form.needed? parts "host_executor" Tree.text?
  some ⟨hostType, containedIn, hostExecutor⟩

end HostPlacement

namespace Profile

/-- The written form of a profile.  Empty parts are left out. -/
def toTree (profile : Profile) : Tree :=
  Form.record
    [("name", some (.string profile.name)),
     ("description", Form.given (!profile.description.isEmpty) (.string profile.description)),
     ("directives", Form.given (!profile.directives.isEmpty)
       (.sequence (profile.directives.map Directive.toTree))),
     ("merge_policies", Form.given (!profile.mergePolicies.isEmpty)
       (.mapping (profile.mergePolicies.mapValues fun _ policy => policy.toTree).entries)),
     ("host_placement", profile.placement.map HostPlacement.toTree)]

/-- Read a profile. -/
def ofTree? (tree : Tree) : Option Profile := do
  let parts ← Form.parts?
    ["name", "description", "directives", "merge_policies", "host_placement"] tree
  let name ← Form.needed? parts "name" Tree.text?
  let description ← Form.optional? parts "description" "" Tree.text?
  let directives ← Form.optional? parts "directives" [] (Form.list? Directive.ofTree?)
  let mergePolicies ← Form.optional? parts "merge_policies" ∅ (Form.dict? Policy.ofTree?)
  let placement ← Form.optional? parts "host_placement" none (Form.nullable? HostPlacement.ofTree?)
  some ⟨name, description, directives, mergePolicies, placement⟩

end Profile

end Blueprint
