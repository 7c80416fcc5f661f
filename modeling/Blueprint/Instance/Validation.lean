import Blueprint.Instance.Build
import Blueprint.Json.Printer
import Blueprint.Text.Case
import Blueprint.Text.WhiteSpace

/-!
# Validating instances

The validators of a definition are checked on each of its instances, in order.
The parts of a node come before the node, siblings in their order; the first
failure is the answer.

A check sees its node, the nodes that enclose it and the registry.  What the
checks of the host do is a parameter, `Checks`.
-/

namespace Blueprint

/-- A rule that a document breaks. -/
structure SemanticError where
  /-- Where. -/
  path : Path
  /-- The code of the rule. -/
  code : UInt32
  /-- What is wrong. -/
  text : String
deriving DecidableEq

/-- The text of an error. -/
def SemanticError.message (error : SemanticError) : String :=
  error.path.text ++ ": [" ++ toString error.code.toNat ++ "] " ++ error.text

/-- No enclosing node has the definition that is looked for. -/
structure NotFound where
  /-- The definition. -/
  definition : String
  /-- Where the search began. -/
  path : Path
deriving DecidableEq

/-- The text of an error. -/
def NotFound.message (error : NotFound) : String :=
  "no enclosing '" ++ error.definition ++ "' above " ++ error.path.text

/-- What a check sees. -/
structure Context where
  /-- The registry against which the document was built. -/
  registry : Registry
  /-- The node that is checked. -/
  node : Instance
  /-- The nodes that enclose it, closest first. -/
  ancestors : List Instance

/-- What the checks of a host do. -/
abbrev Checks := CustomCheck → Context → Except SemanticError Unit

/-- A host without checks. -/
def Checks.none : Checks :=
  fun _ _ => .ok ()

namespace Context

/-- The closest enclosing node of a definition. -/
def ancestor (context : Context) (definition : String) : Except NotFound Instance :=
  match context.ancestors.find? fun ancestor => ancestor.definition == definition with
  | some found => .ok found
  | .none => .error ⟨definition, context.node.path⟩

/-- The root of the document. -/
def root (context : Context) : Instance :=
  context.ancestors.getLast?.getD context.node

/-- An error at the node. -/
def failure (context : Context) (code : UInt32) (text : String) : SemanticError :=
  ⟨context.node.path, code, text⟩

end Context

namespace Validator

/-- The text of a scalar.  Null and collections have none. -/
def scalarText? : Tree → Option String
  | .string value => some value
  | .bool true => some "true"
  | .bool false => some "false"
  | .number value => some (String.ofList (Json.number value))
  | _ => none

/-- Values in single quotes, separated by commas. -/
def quotedList (values : List String) : String :=
  ", ".intercalate (values.map fun value => "'" ++ value ++ "'")

/-- Whether a text has nothing but white space. -/
def isBlank (text : String) : Bool :=
  text.toList.all Text.isWhiteSpace

/-- Whether a node counts as empty.  Numbers and booleans never do. -/
def isEmpty : Instance → Bool
  | .leaf _ (.string value) => isBlank value
  | .leaf _ (.sequence items) => items.isEmpty
  | .leaf _ (.mapping entries) => entries.isEmpty
  | .leaf _ .null => true
  | .leaf _ _ => false
  | .items _ children => children.isEmpty
  | .fields _ children => children.isEmpty
  | .entries _ children => children.isEmpty

/-- The texts by which a node refers to entries. -/
def referred : Instance → List String
  | .leaf _ (.string value) => [value]
  | .leaf _ (.sequence items) => items.filterMap Tree.text?
  | .items _ children => children.filterMap fun child => child.raw?.bind Tree.text?
  | _ => []

/-- The entry names of a section of the document. -/
def sectionNames (context : Context) (part : String) : List String :=
  match context.root.child? part with
  | some node => node.entryNames
  | none => []

/-- What is wrong with a value outside an allowed set. -/
def illegalValueText (context : Context) (values : List String) (owner : Option String)
    (text : String) : String :=
  let field := context.node.name
  let rest := "illegal '" ++ field ++ "' value '" ++ text ++ "'; value must be one of " ++
    quotedList values
  match owner.map context.ancestor with
  | some (.ok found) =>
      Text.capitalized found.definition ++ " '" ++ found.name ++ "' has an " ++ rest
  | _ => rest

/-- Check a validator on a node. -/
def run (checks : Checks) (context : Context) (validator : Validator) :
    Except SemanticError Unit :=
  let field := context.node.name
  match validator with
  | .allowedValues values owner code =>
      match context.node.raw?.bind scalarText? with
      | none => .error (context.failure code ("'" ++ field ++ "' must be a scalar value"))
      | some text =>
          if values.contains text then .ok ()
          else .error (context.failure code (illegalValueText context values owner text))
  | .pattern source code =>
      match context.node.raw?.bind Tree.text? with
      | none => .error (context.failure code ("'" ++ field ++ "' must be a string"))
      | some text =>
          match context.registry.pattern? source with
          | none =>
              .error (context.failure code
                ("pattern '" ++ source ++ "' is not compiled; freeze the registry first"))
          | some prepared =>
              if prepared.isMatch text then .ok ()
              else
                .error (context.failure code
                  ("'" ++ field ++ "' value '" ++ text ++ "' does not match pattern '" ++ source ++
                    "'"))
  | .nonEmpty code =>
      if isEmpty context.node then
        .error (context.failure code ("'" ++ field ++ "' cannot be empty"))
      else .ok ()
  | .referenceTo part code =>
      let names := sectionNames context part
      match (referred context.node).find? fun name => !names.contains name with
      | some missing =>
          .error (context.failure code
            ("'" ++ field ++ "' refers to unknown " ++ part ++ " entry '" ++ missing ++ "'"))
      | none => .ok ()
  | .custom check => checks check context

/-- Check validators in order on a node. -/
def runAll (checks : Checks) (context : Context) : List Validator → Except SemanticError Unit
  | [] => .ok ()
  | validator :: rest =>
      match validator.run checks context with
      | .error cause => .error cause
      | .ok () => runAll checks context rest

end Validator

namespace Validation

/-- The validators of the definition of a node. -/
def validatorsOf (registry : Registry) (node : Instance) : List Validator :=
  match registry.definition? node.definition with
  | some definition => definition.validators
  | none => []

/-- Check the validators of a single node. -/
def validateHere (checks : Checks) (registry : Registry) (node : Instance)
    (ancestors : List Instance) : Except SemanticError Unit :=
  Validator.runAll checks ⟨registry, node, ancestors⟩ (validatorsOf registry node)

mutual

/-- Validate a node and all below it, given the nodes that enclose it. -/
def validateNode (checks : Checks) (registry : Registry) (ancestors : List Instance) :
    Instance → Except SemanticError Unit
  | .leaf header raw => validateHere checks registry (.leaf header raw) ancestors
  | .fields header children =>
      match validateEntries checks registry (.fields header children :: ancestors) children with
      | .error cause => .error cause
      | .ok () => validateHere checks registry (.fields header children) ancestors
  | .items header children =>
      match validateAll checks registry (.items header children :: ancestors) children with
      | .error cause => .error cause
      | .ok () => validateHere checks registry (.items header children) ancestors
  | .entries header children =>
      match validateEntries checks registry (.entries header children :: ancestors) children with
      | .error cause => .error cause
      | .ok () => validateHere checks registry (.entries header children) ancestors

/-- Validate some nodes in order. -/
def validateAll (checks : Checks) (registry : Registry) (ancestors : List Instance) :
    List Instance → Except SemanticError Unit
  | [] => .ok ()
  | node :: rest =>
      match validateNode checks registry ancestors node with
      | .error cause => .error cause
      | .ok () => validateAll checks registry ancestors rest

/-- Validate some named nodes in order. -/
def validateEntries (checks : Checks) (registry : Registry) (ancestors : List Instance) :
    List (String × Instance) → Except SemanticError Unit
  | [] => .ok ()
  | (_, node) :: rest =>
      match validateNode checks registry ancestors node with
      | .error cause => .error cause
      | .ok () => validateEntries checks registry ancestors rest

end

/-- Validate a whole document. -/
def validate (checks : Checks) (registry : Registry) (root : Instance) :
    Except SemanticError Unit :=
  validateNode checks registry [] root

/-! ## Obligations -/

/-- A rule to be checked in a context. -/
abbrev Obligation := Context × Validator

/-- The rules of a single node. -/
def obligationsHere (registry : Registry) (node : Instance) (ancestors : List Instance) :
    List Obligation :=
  (validatorsOf registry node).map fun validator => (⟨registry, node, ancestors⟩, validator)

mutual

/-- The rules for a node and all below it: those of its parts, then its own. -/
def obligationsOf (registry : Registry) (ancestors : List Instance) :
    Instance → List Obligation
  | .leaf header raw => obligationsHere registry (.leaf header raw) ancestors
  | .fields header children =>
      obligationsOfEntries registry (.fields header children :: ancestors) children ++
        obligationsHere registry (.fields header children) ancestors
  | .items header children =>
      obligationsOfAll registry (.items header children :: ancestors) children ++
        obligationsHere registry (.items header children) ancestors
  | .entries header children =>
      obligationsOfEntries registry (.entries header children :: ancestors) children ++
        obligationsHere registry (.entries header children) ancestors

/-- The rules for some nodes in order. -/
def obligationsOfAll (registry : Registry) (ancestors : List Instance) :
    List Instance → List Obligation
  | [] => []
  | node :: rest =>
      obligationsOf registry ancestors node ++ obligationsOfAll registry ancestors rest

/-- The rules for some named nodes in order. -/
def obligationsOfEntries (registry : Registry) (ancestors : List Instance) :
    List (String × Instance) → List Obligation
  | [] => []
  | (_, node) :: rest =>
      obligationsOf registry ancestors node ++ obligationsOfEntries registry ancestors rest

end

/-- All rules for a document, in the order in which they are checked. -/
def obligations (registry : Registry) (root : Instance) : List Obligation :=
  obligationsOf registry [] root

/-- The rules that are checked before validation ends: all up to the first that
fails, which is the last one. -/
def attempted (checks : Checks) : List Obligation → List Obligation
  | [] => []
  | obligation :: rest =>
      match obligation.2.run checks obligation.1 with
      | .error _ => [obligation]
      | .ok () => obligation :: attempted checks rest

end Validation

end Blueprint
